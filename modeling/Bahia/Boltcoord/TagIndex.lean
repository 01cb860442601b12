import Bahia.Boltcoord.Backend
import Bahia.Nostr.Address

/-! The indexes of the vendored eventstore. A key keeps a part of an author or of a tag value and 32
bits of the date, and what is read by it is hardly compared again. -/

namespace Bahia.Boltdb
open Foundation Nostr

/-- A tag value's part of an index key, in the bucket that it is written to. -/
inductive TagKey where
  | tag32 (start : Bytes)
  | tagAddr (kind : Nat) (author d : Bytes)
  | tag (hash : Bytes)
  deriving DecidableEq

/-- The first eight bytes of 64 hexadecimal digits. -/
def hexStart (text : String) : Option Bytes :=
  if text.utf8ByteSize = 64 then decodeHexDigits (text.toList.take 16) else none

/-- The key of an address without a colon in its `d`. -/
def addressKey (value : String) : Option TagKey :=
  match splitN value ':' 4 with
  | [kind, author, d] => do
    let author ← hexStart author
    let kind ← parseUint kind 65536
    return .tagAddr kind author (((utf8 d).take 30).rightpad 30 0)
  | _ => none

section Keys
variable (md5 : Bytes → FixedBytes 16)

/-- `getTagIndexPrefix`. The date and the id are written over all but four bytes of a hash. -/
def tagIndexPrefix (name value : String) : Option Byte × TagKey :=
  ((utf8 name).head?,
    match hexStart value with
    | some start => .tag32 start
    | none => (addressKey value).getD (.tag ((md5 (utf8 value)).val.take 4)))

/-- The tag keys of `getIndexKeysForEvent`. -/
def tagKeysOf (event : Event) : List (Option Byte × TagKey) :=
  event.tags.filterMap fun tag =>
    match tag with
    | name :: value :: _ =>
      if name.utf8ByteSize = 1 ∧ tagIndexed value = true then some (tagIndexPrefix md5 name value)
      else none
    | _ => none

theorem mem_tagKeysOf {md5 : Bytes → FixedBytes 16} (short : name.utf8ByteSize = 1) :
    tagIndexPrefix md5 name value ∈ tagKeysOf md5 event ↔
      ∃ other, tagIndexed other = true ∧ Tags.containsAny event.tags name [other] = true ∧
        tagIndexPrefix md5 name other = tagIndexPrefix md5 name value := by
  simp only [tagKeysOf, List.mem_filterMap, Tags.containsAny, List.any_eq_true]
  constructor
  · rintro ⟨tag, member, read⟩
    split at read
    next letter other rest =>
      split at read
      next kept =>
        have same := Option.some.inj read
        -- A name of one byte is its first byte.
        have named : letter = name := by
          apply utf8_injective
          obtain ⟨first, one⟩ := List.length_eq_one_iff.mp ((utf8_length letter).trans kept.1)
          obtain ⟨second, two⟩ := List.length_eq_one_iff.mp ((utf8_length name).trans short)
          have heads := congrArg Prod.fst same
          simp only [tagIndexPrefix, one, two, List.head?_cons, Option.some.injEq] at heads
          rw [one, two, heads]
        rw [named] at same
        exact ⟨other, kept.2, ⟨_, member, by simp [named]⟩, same⟩
      next => cases read
    next => cases read
  · rintro ⟨other, indexed, ⟨tag, member, carries⟩, same⟩
    refine ⟨tag, member, ?_⟩
    split at carries
    next letter found rest =>
      simp only [Bool.and_eq_true, beq_iff_eq, List.contains_cons, List.contains_nil,
        Bool.or_false] at carries
      rw [carries.1, carries.2]
      simp only [short, indexed, and_self, if_true]
      rw [same]
    next => cases carries

end Keys

/-- `ChooseNarrowestTag`: the tag and how narrow it is. -/
def chooseNarrowestTag (filter : Filter) : Option (String × List String) × Nat :=
  filter.tags.foldl (fun (chosen, goodness) (key, values) =>
    let choose (goodness : Nat) := (some (key, values), goodness)
    if key ∈ ["e", "E", "q"] then choose 9
    else if key ∈ ["a", "A", "i", "I", "g", "r"] then choose 8
    else if key = "d" then
      if filter.authors.getD [] ≠ [] ∧ goodness < 7 then choose 7
      else if goodness < 4 then choose 4
      else (chosen, goodness)
    else if key ∈ ["h", "t", "l", "k", "K"] then if goodness < 6 then choose 6 else (chosen, goodness)
    else if key = "p" then if goodness < 2 then choose 2 else (chosen, goodness)
    else if goodness = 0 then choose 0
    else (chosen, goodness)) (none, 0)

def uint32 (date : Timestamp) : Nat := (date.val % 2 ^ 32).toNat

/-- The dates of a range. The last one of 32 bits is in none. -/
def inRange (filter : Filter) (event : Event) : Bool :=
  let last := 4294967295
  let upTo := uint32 filter.upTo
  decide (uint32 event.createdAt < if filter.upTo ≠ 0 ∧ upTo < last then upTo + 1 else last) &&
    decide (uint32 filter.since ≤ uint32 event.createdAt)

/-- The one tag that is compared with the event itself. -/
def extraTag (filter : Filter) (event : Event) : Bool :=
  (chooseNarrowestTag filter).1.all fun (key, values) => Tags.containsAny event.tags key values

/-- The ranges by author and kind. -/
def pubkeyMatching (filter : Filter) (event : Event) : Bool :=
  let authors := filter.authors.getD []
  let kinds := filter.kinds.getD []
  (authors.isEmpty || authors.any fun author => author.val.take 8 == event.pubKey.val.take 8) &&
    (kinds.isEmpty || kinds.contains event.kind) && extraTag filter event

/-- What the vendored eventstore finds: the ranges of `prepareQueries`, and what `query` compares
of the events in them. -/
def vendored (md5 : Bytes → FixedBytes 16) : Index := fun filter event =>
  inRange filter event &&
    match chooseNarrowestTag filter with
    | (some (key, values), goodness) =>
      if goodness < 2 ∧ (filter.authors.getD [] ≠ [] ∨ filter.kinds.getD [] ≠ []) then
        pubkeyMatching filter event
      else
        (values.any fun value => (tagKeysOf md5 event).contains (tagIndexPrefix md5 key value)) &&
          filter.authors.all (·.contains event.pubKey) && filter.kinds.all (·.contains event.kind) &&
          extraTag { filter with tags := filter.tags.filter (·.1 ≠ key) } event
    | (none, _) => pubkeyMatching filter event

/-- What the codec writes and reads back: `Marshal` checks no more than the numbers of items and the
lengths, and the tags together get two bytes of length. -/
def encodes (event : Event) : Bool :=
  decide (0 ≤ event.createdAt.val ∧ event.createdAt.val ≤ 4294967295) &&
    event.tags.all (·.length ≤ 255) &&
    decide (4 + (event.tags.map fun tag =>
      3 + (tag.map fun item => 2 + item.utf8ByteSize).sum).sum ≤ 65535) &&
    decide (event.content.utf8ByteSize ≤ 65535)

end Bahia.Boltdb
