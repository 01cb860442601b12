import Bahia.Nostr.Event

/-! Subscription filters: what they match and the most events they can answer with. -/

namespace Bahia.Nostr
open Foundation

/-- A filter. An absent list constrains nothing, a zero bound is none, and a zero limit is
no limit. -/
structure Filter where
  ids : Option (List ID) := none
  kinds : Option (List Kind) := none
  authors : Option (List PubKey) := none
  tags : List (String × List String) := []
  since : Timestamp := 0
  upTo : Timestamp := 0
  limit : Nat := 0

namespace Filter

def matchesIgnoringTimestampConstraints (filter : Filter) (event : Event) : Bool :=
  filter.ids.all (·.contains event.id) && filter.kinds.all (·.contains event.kind) &&
    filter.authors.all (·.contains event.pubKey) &&
    filter.tags.all fun (name, values) => Tags.containsAny event.tags name values

def accepts (filter : Filter) (event : Event) : Bool :=
  filter.matchesIgnoringTimestampConstraints event &&
    !(filter.since != 0 && event.createdAt < filter.since) &&
    !(filter.upTo != 0 && filter.upTo < event.createdAt)

def tagValues (filter : Filter) (name : String) : List String := (filter.tags.lookup name).getD []

/-- The most events the filter can be answered with; `none` is no bound. -/
def getTheoreticalLimit (filter : Filter) : Option Nat :=
  let own := if 0 < filter.limit then some filter.limit else none
  match filter.ids with
  | some ids => some ids.length
  | none =>
    match filter.authors, filter.kinds with
    | some authors, some kinds =>
      if kinds.all Kind.isReplaceable then some (authors.length * kinds.length)
      else if 0 < (filter.tagValues "d").length && kinds.all Kind.isAddressable then
        some (authors.length * kinds.length * (filter.tagValues "d").length)
      else own
    | _, _ => own

end Filter

end Bahia.Nostr
