import Bahia.Foundation.Streams
import Bahia.Boltcoord.Query
import Bahia.Boltcoord.Writes

/-! What a range of the tag index reads: the held events with a tag value, newest first. -/

namespace Bahia.Boltcoord
open Foundation Nostr Boltdb List
variable {sha256 : Bytes → FixedBytes 32}

/-- Every held event has its rows; any other row is left of an event that is gone. -/
structure Indexed (sha256 : Bytes → FixedBytes 32) (st : Store) : Prop where
  complete : ∀ event, st.backend.Holds event → ∀ row ∈ tagKeys sha256 event, row ∈ st.tags
  rows : ∀ row ∈ st.tags, ∃ event, 0 ≤ event.createdAt ∧ row ∈ tagKeys sha256 event ∧
    (st.backend.Holds event ∨ event.id ∉ st.backend.events)
  dated : ∀ event, st.backend.Holds event → 0 ≤ event.createdAt

section Layout

theorem mem_tagKeys :
    row ∈ tagKeys sha256 event ↔ ∃ name value rest, (name :: value :: rest) ∈ event.tags ∧
      name.utf8ByteSize = 1 ∧ tagIndexable value = false ∧
        row = tagKeyPrefix sha256 name value ++ event.createdAt.bigEndian ++ event.id.val := by
  simp only [tagKeys, mem_map, mem_eraseDups, mem_filter, Prod.exists, Prod.mk.injEq]
  constructor
  · rintro ⟨name, value, ⟨tag, ⟨member, unindexed⟩, first, second⟩, made⟩
    unfold unindexedTag at unindexed
    split at unindexed
    next key text rest =>
      simp only [Bool.and_eq_true, beq_iff_eq, Bool.not_eq_true'] at unindexed
      cases first
      cases second
      exact ⟨key, text, rest, member, unindexed.1, unindexed.2, made.symm⟩
    next => cases unindexed
  · rintro ⟨name, value, rest, member, short, unindexed, made⟩
    refine ⟨name, value, ⟨_, ⟨member, ?_⟩, rfl, rfl⟩, made.symm⟩
    simp [unindexedTag, short, unindexed]

theorem tagKeyPrefix_length (short : name.utf8ByteSize = 1) :
    (tagKeyPrefix sha256 name value).length = 33 := by
  rw [tagKeyPrefix, length_append, utf8_length, short, (sha256 _).2]

theorem row_layout (short : name.utf8ByteSize = 1) (listed : row ∈ tagKeys sha256 event)
    (inside : tagKeyPrefix sha256 name value <+: row) :
    row = tagKeyPrefix sha256 name value ++ (event.createdAt.bigEndian ++ event.id.val) := by
  obtain ⟨other, text, rest, _, single, _, made⟩ := mem_tagKeys.mp listed
  rw [append_assoc] at made
  have sizes : (tagKeyPrefix sha256 name value).length = (tagKeyPrefix sha256 other text).length :=
    (tagKeyPrefix_length short).trans (tagKeyPrefix_length single).symm
  have shared : tagKeyPrefix sha256 name value <+: tagKeyPrefix sha256 other text :=
    prefix_of_prefix_length_le (made ▸ inside) (prefix_append _ _) sizes.le
  rw [made, shared.eq_of_length sizes]

variable {start : Bytes} {createdAt : Timestamp} {id : ID}

theorem rowID_layout : rowID start (start ++ (createdAt.bigEndian ++ id.val)) = some id := by
  have tail : (start ++ (createdAt.bigEndian ++ id.val)).drop (start.length + 8) = id.val := by
    rw [← drop_drop, drop_left, drop_left' (SInt64.bigEndian_length createdAt)]
  unfold rowID
  simp only [tail]
  exact dif_pos id.2

theorem rowCreatedAt_layout :
    rowCreatedAt start (start ++ (createdAt.bigEndian ++ id.val)) = createdAt := by
  have bytes : ((start ++ (createdAt.bigEndian ++ id.val)).drop start.length).take 8 =
      createdAt.bigEndian := by
    rw [drop_left, take_left' (SInt64.bigEndian_length createdAt)]
  unfold rowCreatedAt
  rw [bytes, SInt64.bigEndian, bigEndian_foldl 8 _ createdAt.toUint64_lt, SInt64.wrap_toUint64]

theorem row_time {first second : Event}
    (later : start ++ (first.createdAt.bigEndian ++ first.id.val) <
      start ++ (second.createdAt.bigEndian ++ second.id.val)) :
    first.createdAt.toUint64 ≤ second.createdAt.toUint64 := by
  rw [append_lt_append_iff rfl] at later
  rcases later with wrong | ⟨_, less⟩
  · exact absurd wrong (List.lt_irrefl start)
  rw [append_lt_append_iff (by simp), SInt64.bigEndian_lt_iff] at less
  rcases less with before | ⟨same, _⟩
  · exact before.le
  · exact (bigEndian_injective first.createdAt.toUint64_lt second.createdAt.toUint64_lt same).le

theorem toUint64_le_of_nonneg {first second : Timestamp} (one : 0 ≤ first) (other : 0 ≤ second) :
    first.toUint64 ≤ second.toUint64 ↔ first ≤ second := by
  rw [SInt64.le_iff, SInt64.zero_val] at one other
  rw [SInt64.toUint64_le_iff, SInt64.le_iff]
  omega

end Layout

section Range
variable {st : Store} {name value : String} {since upTo : Timestamp}

def rangeRows (sha256 : Bytes → FixedBytes 32) (st : Store) (name value : String)
    (since upTo : Timestamp) : List Bytes :=
  let start := tagKeyPrefix sha256 name value
  let upper := if 0 < upTo then upTo.toUint64 + 1 else 2 ^ 64 - 1
  ((st.tags.keys.filter (· < start ++ bigEndian 8 upper)).reverse).takeWhile fun row =>
    start.isPrefixOf row && !(0 < since && rowCreatedAt start row < since)

def rowEvent (sha256 : Bytes → FixedBytes 32) (st : Store) (name value : String) (row : Bytes) :
    Option Event := do
  let id ← rowID (tagKeyPrefix sha256 name value) row
  let event ← st.backend.events.get id
  if Tags.containsAny event.tags name [value] then some event else none

theorem tagEvents_eq : tagEvents sha256 st name value since upTo =
    (rangeRows sha256 st name value since upTo).filterMap (rowEvent sha256 st name value) := rfl

/-- A row of the range and the event it was written for. -/
structure RowOf (sha256 : Bytes → FixedBytes 32) (st : Store) (name value : String) (row : Bytes)
    (event : Event) : Prop where
  layout : row = tagKeyPrefix sha256 name value ++ (event.createdAt.bigEndian ++ event.id.val)
  dated : 0 ≤ event.createdAt
  current : st.backend.Holds event ∨ event.id ∉ st.backend.events

variable {row : Bytes} {event : Event}

theorem Indexed.rowOf (indexed : Indexed sha256 st) (short : name.utf8ByteSize = 1)
    (stored : row ∈ st.tags) (inside : tagKeyPrefix sha256 name value <+: row) :
    ∃ event, RowOf sha256 st name value row event := by
  obtain ⟨event, dated, listed, current⟩ := indexed.rows row stored
  exact ⟨event, row_layout short listed inside, dated, current⟩

theorem RowOf.event_eq (rowOf : RowOf sha256 st name value row event) :
    rowEvent sha256 st name value row = some found ↔
      found = event ∧ st.backend.Holds event ∧ Tags.containsAny event.tags name [value] = true := by
  unfold rowEvent
  rw [rowOf.layout, rowID_layout]
  simp only [Option.bind_eq_bind, Option.bind_some, Option.bind_eq_some_iff]
  constructor
  · rintro ⟨stored, read, chosen⟩
    split at chosen
    next tagged =>
      cases chosen
      rcases rowOf.current with held | gone
      · have same := Option.some.inj (held.symm.trans read)
        subst same
        exact ⟨rfl, held, tagged⟩
      · exact absurd (Bucket.mem_of_get read) gone
    next => cases chosen
  · rintro ⟨rfl, held, tagged⟩
    exact ⟨found, held, if_pos tagged⟩

theorem upper_fits : (if 0 < upTo then upTo.toUint64 + 1 else 2 ^ 64 - 1) < 256 ^ 8 := by
  split
  next positive =>
    rw [SInt64.lt_iff, SInt64.zero_val] at positive
    have word := SInt64.toUint64_of_nonneg positive.le
    have upper := upTo.upper
    omega
  next => norm_num

theorem row_lt_bound (dated : 0 ≤ event.createdAt) :
    start ++ (event.createdAt.bigEndian ++ event.id.val) <
        start ++ bigEndian 8 (if 0 < upTo then upTo.toUint64 + 1 else 2 ^ 64 - 1) ↔
      (0 < upTo → event.createdAt ≤ upTo) := by
  have fits := event.createdAt.toUint64_lt
  have tail : event.createdAt.bigEndian ++ event.id.val <
      bigEndian 8 (if 0 < upTo then upTo.toUint64 + 1 else 2 ^ 64 - 1) ++ [] ↔
        event.createdAt.toUint64 < if 0 < upTo then upTo.toUint64 + 1 else 2 ^ 64 - 1 := by
    rw [append_lt_append_iff (by simp), SInt64.bigEndian, bigEndian_lt_iff fits upper_fits]
    simp
  rw [append_nil] at tail
  rw [append_lt_append_iff rfl, or_iff_right (List.lt_irrefl start), and_iff_right rfl, tail]
  by_cases bounded : 0 < upTo
  · rw [if_pos bounded, Nat.lt_succ_iff, toUint64_le_of_nonneg dated bounded.le]
    exact ⟨fun early _ => early, fun early => early bounded⟩
  rw [if_neg bounded]
  refine iff_of_true ?_ fun positive => absurd positive bounded
  have upper := event.createdAt.upper
  rw [SInt64.le_iff, SInt64.zero_val] at dated
  have word := SInt64.toUint64_of_nonneg dated
  omega

theorem below_descending (bound : Bytes) :
    ((st.tags.keys.filter (· < bound)).reverse).Pairwise fun first second => second < first :=
  pairwise_reverse.mpr (st.tags.keys_sorted.filter _)

variable (indexed : Indexed sha256 st)
include indexed

section
variable (short : name.utf8ByteSize = 1)
include short

theorem rangeRows_eq_filter : rangeRows sha256 st name value since upTo =
      ((st.tags.keys.filter (· < tagKeyPrefix sha256 name value ++
        bigEndian 8 (if 0 < upTo then upTo.toUint64 + 1 else 2 ^ 64 - 1))).reverse).filter fun row =>
          (tagKeyPrefix sha256 name value).isPrefixOf row &&
            !(0 < since && rowCreatedAt (tagKeyPrefix sha256 name value) row < since) := by
  apply takeWhile_eq_filter
  apply (below_descending _).imp_of_mem
  intro first second firstMember secondMember lower keep
  obtain ⟨firstStored, firstBelow⟩ := mem_filter.mp (mem_reverse.mp firstMember)
  obtain ⟨secondStored, _⟩ := mem_filter.mp (mem_reverse.mp secondMember)
  rw [Bucket.mem_keys] at firstStored secondStored
  simp only [Bool.and_eq_true, List.isPrefixOf_iff_prefix, Bool.not_eq_true',
    Bool.and_eq_false_iff, decide_eq_false_iff_not] at keep ⊢
  have inside : tagKeyPrefix sha256 name value <+: first :=
    prefix_of_between keep.1 (prefix_append _ _) lower.asymm
      (of_decide_eq_true firstBelow).asymm
  refine ⟨inside, keep.2.imp id ?_⟩
  intro recent
  obtain ⟨later, laterRow⟩ := indexed.rowOf short firstStored inside
  obtain ⟨earlier, earlierRow⟩ := indexed.rowOf short secondStored keep.1
  rw [earlierRow.layout, rowCreatedAt_layout] at recent
  rw [laterRow.layout, rowCreatedAt_layout]
  rw [laterRow.layout, earlierRow.layout] at lower
  have ordered := (toUint64_le_of_nonneg earlierRow.dated laterRow.dated).mp (row_time lower)
  exact not_lt.mpr ((not_lt.mp recent).trans ordered)

theorem mem_rangeRows (rowOf : RowOf sha256 st name value row event) :
    row ∈ rangeRows sha256 st name value since upTo ↔ row ∈ st.tags ∧
      (0 < upTo → event.createdAt ≤ upTo) ∧ (0 < since → since ≤ event.createdAt) := by
  have inside : tagKeyPrefix sha256 name value <+: row := by
    rw [rowOf.layout]
    exact prefix_append _ _
  have time : rowCreatedAt (tagKeyPrefix sha256 name value) row = event.createdAt := by
    rw [rowOf.layout, rowCreatedAt_layout]
  rw [rangeRows_eq_filter indexed short, mem_filter, mem_reverse, mem_filter,
    Bucket.mem_keys, time, decide_eq_true_eq, and_assoc]
  apply and_congr_right
  intro _
  apply and_congr
  · rw [rowOf.layout]
    exact row_lt_bound rowOf.dated
  · rw [List.isPrefixOf_iff_prefix.mpr inside, Bool.true_and, Bool.not_eq_true',
      Bool.and_eq_false_iff, decide_eq_false_iff_not, decide_eq_false_iff_not]
    exact (or_congr_right not_lt).trans imp_iff_not_or.symm

theorem rowOf_of_mem (member : row ∈ rangeRows sha256 st name value since upTo) :
    ∃ event, RowOf sha256 st name value row event := by
  rw [rangeRows_eq_filter indexed short, mem_filter, mem_reverse, mem_filter,
    Bucket.mem_keys, Bool.and_eq_true] at member
  exact indexed.rowOf short member.1.1 (List.isPrefixOf_iff_prefix.mp member.2.1)

theorem mem_tagEvents (unindexed : tagIndexable value = false) :
    event ∈ tagEvents sha256 st name value since upTo ↔ st.backend.Holds event ∧
      Tags.containsAny event.tags name [value] = true ∧
        (0 < upTo → event.createdAt ≤ upTo) ∧ (0 < since → since ≤ event.createdAt) := by
  rw [tagEvents_eq, mem_filterMap]
  constructor
  · intro ⟨row, member, read⟩
    obtain ⟨written, rowOf⟩ := rowOf_of_mem indexed short member
    obtain ⟨same, held, tagged⟩ := rowOf.event_eq.mp read
    subst same
    exact ⟨held, tagged, ((mem_rangeRows indexed short rowOf).mp member).2⟩
  · intro ⟨held, tagged, within⟩
    have rowOf : RowOf sha256 st name value (tagKeyPrefix sha256 name value ++
        (event.createdAt.bigEndian ++ event.id.val)) event :=
      ⟨rfl, indexed.dated event held, .inl held⟩
    refine ⟨_, (mem_rangeRows indexed short rowOf).mpr ⟨?_, within⟩,
      rowOf.event_eq.mpr ⟨rfl, held, tagged⟩⟩
    obtain ⟨tag, member, carries⟩ := any_eq_true.mp tagged
    apply indexed.complete event held
    split at carries
    next key text rest =>
      simp only [Bool.and_eq_true, beq_iff_eq, contains_cons, contains_nil,
        Bool.or_false] at carries
      obtain ⟨rfl, rfl⟩ := carries
      refine mem_tagKeys.mpr ⟨key, text, rest, member, short, unindexed, ?_⟩
      rw [append_assoc]
    next => cases carries

theorem tagEvents_newest_first : (tagEvents sha256 st name value since upTo).Pairwise
      fun first second => second.createdAt ≤ first.createdAt := by
  rw [tagEvents_eq, pairwise_filterMap]
  have descending : (rangeRows sha256 st name value since upTo).Pairwise
      fun first second => second < first := by
    rw [rangeRows_eq_filter indexed short]
    exact (below_descending _).filter _
  apply descending.imp_of_mem
  intro first second firstMember secondMember lower firstEvent firstRead secondEvent secondRead
  obtain ⟨later, laterRow⟩ := rowOf_of_mem indexed short firstMember
  obtain ⟨earlier, earlierRow⟩ := rowOf_of_mem indexed short secondMember
  rw [(laterRow.event_eq.mp firstRead).1, (earlierRow.event_eq.mp secondRead).1]
  rw [laterRow.layout, earlierRow.layout] at lower
  exact (toUint64_le_of_nonneg earlierRow.dated laterRow.dated).mp (row_time lower)

end

end Range

end Bahia.Boltcoord
