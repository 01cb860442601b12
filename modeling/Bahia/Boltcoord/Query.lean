import Bahia.Boltcoord.Model

/-! Reads of tag values the eventstore does not index: one range of the tag index for each
value, merged with the eventstore's own read of the rest. -/

namespace Bahia.Boltcoord
open Foundation Nostr Boltdb

/-- The tag a read is driven by: the first, by name, with a value the eventstore does not
index. -/
def unindexedFilterTag (filter : Filter) : Option String :=
  ((filter.tags.filter fun (name, values) =>
    name.utf8ByteSize == 1 && values.any fun value => !tagIndexable value).map Prod.fst).min?

def needsTagIndex (filter : Filter) : Bool := (unindexedFilterTag filter).isSome

/-- The `created_at` of a row, after the name and the hashed value. -/
def rowCreatedAt (start : Bytes) (row : Bytes) : Timestamp :=
  SInt64.wrap (((row.drop start.length).take 8).foldl (fun total byte => total * 256 + byte.val) 0)

def rowID (start : Bytes) (row : Bytes) : Option ID :=
  let bytes := row.drop (start.length + 8)
  if fits : bytes.length = 32 then some ⟨bytes, fits⟩ else none

section Reads
variable (sha256 : Bytes → FixedBytes 32)

/-- The stored events with a tag, newest first, created within the bounds (0: none). Rows
whose event is gone or does not carry the tag are skipped. -/
def tagEvents (st : Store) (name value : String) (since upTo : Timestamp) : List Event :=
  let start := tagKeyPrefix sha256 name value
  let upper := if 0 < upTo then upTo.toUint64 + 1 else 2 ^ 64 - 1
  let below := (st.tags.keys.filter (· < start ++ bigEndian 8 upper)).reverse
  let rows := below.takeWhile fun row =>
    start.isPrefixOf row && !(0 < since && rowCreatedAt start row < since)
  rows.filterMap fun row => do
    let id ← rowID start row
    let event ← st.backend.events.get id
    if Tags.containsAny event.tags name [value] then some event else none

def newer (first second : Event) : Bool :=
  if first.createdAt ≠ second.createdAt then second.createdAt < first.createdAt
  else first.id < second.id

/-- Streams that are each newest first, the newest head taken each time. -/
def mergeNewestFirst (sources : List (List Event)) : List Event :=
  sources.foldr (fun source rest => source.merge rest fun first second => !newer second first) []

/-- `Store.Query`: every event read is checked against the whole filter and yielded once. -/
def Store.query (indexed : Scan) (st : Store) (filter : Filter) (limit : Option Nat) :
    List Event :=
  match unindexedFilterTag filter with
  | none => indexed filter limit
  | some name =>
    let values := filter.tagValues name
    let long := (values.filter fun value => !tagIndexable value).map fun value =>
      tagEvents sha256 st name value filter.since filter.upTo
    let short := values.filter tagIndexable
    let rest := indexed
      { kinds := filter.kinds, authors := filter.authors, since := filter.since
        upTo := filter.upTo, tags := [(name, short)] } none
    let sources := if short.isEmpty then long else long ++ [rest]
    capped limit (((mergeNewestFirst sources).eraseDupsBy fun first second =>
      first.id == second.id).filter filter.accepts)

end Reads

end Bahia.Boltcoord
