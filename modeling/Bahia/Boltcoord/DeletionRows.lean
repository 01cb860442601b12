import Bahia.Boltcoord.Writes

/-! The deletion index answers from one seek whether a request in it names a coordinate at
or after a time, in the order its keys put the times. -/

namespace Bahia.Boltcoord
open Foundation Nostr Bucket List
variable {validKey : PubKey → Bool} {sha256 : Bytes → FixedBytes 32}

variable {rows : Rows} {request : Event} {c : Coordinate} {since : Timestamp}

theorem mem_index :
    key ∈ DeletionIndex.index sha256 validKey rows request ↔
      key ∈ rows ∨ ∃ c ∈ deletedCoordinates validKey request, key = deletionKey sha256 c request := by
  unfold DeletionIndex.index
  induction deletedCoordinates validKey request generalizing rows with
  | nil => simp
  | cons c rest ih =>
    rw [foldl_cons, ih, mem_put]
    simp only [mem_cons, exists_eq_or_imp]
    exact or_assoc.trans or_left_comm

theorem deleted_iff :
    DeletionIndex.deleted sha256 rows c since = true ↔ ∃ key ∈ rows,
      deletionKeyPrefix sha256 c <+: key ∧
        ¬ key < deletionKeyPrefix sha256 c ++ since.bigEndian := by
  unfold DeletionIndex.deleted
  constructor
  · intro deleted
    split at deleted
    next key stopped =>
      obtain ⟨member, reached, _⟩ := seek_some stopped
      exact ⟨key, member, List.isPrefixOf_iff_prefix.mp deleted, reached⟩
    next => cases deleted
  · intro ⟨key, member, shared, later⟩
    split
    next found stopped =>
      obtain ⟨_, reached, first⟩ := seek_some stopped
      exact List.isPrefixOf_iff_prefix.mpr
        (prefix_of_between (prefix_append _ _) shared reached (first key member later))
    next ended => exact absurd (seek_none ended key member) later

theorem deletionKey_prefix :
    deletionKeyPrefix sha256 c <+: deletionKey sha256 other request ↔
      deletionKeyPrefix sha256 other = deletionKeyPrefix sha256 c := by
  have sizes : (deletionKeyPrefix sha256 c).length = (deletionKeyPrefix sha256 other).length :=
    (sha256 _).2.trans (sha256 _).2.symm
  unfold deletionKey
  rw [append_assoc]
  constructor
  · intro shared
    have left := prefix_of_prefix_length_le shared (prefix_append _ _) sizes.le
    exact (left.eq_of_length sizes).symm
  · intro same
    rw [same]
    exact prefix_append _ _

theorem deletionKey_lt :
    deletionKey sha256 c request < deletionKeyPrefix sha256 c ++ since.bigEndian ↔
      request.createdAt.toUint64 < since.toUint64 := by
  have tail : request.createdAt.bigEndian ++ request.id.val < since.bigEndian ++ [] ↔
      request.createdAt.bigEndian < since.bigEndian := by
    rw [append_lt_append_iff (by simp)]
    simp
  rw [append_nil] at tail
  rw [deletionKey, append_assoc, append_lt_append_iff rfl, tail, SInt64.bigEndian_lt_iff]
  simp

/-- An index that holds exactly the keys of some requests. -/
def RowsOf (validKey : PubKey → Bool) (sha256 : Bytes → FixedBytes 32) (rows : Rows)
    (requests : Set Event) : Prop :=
  ∀ key, key ∈ rows ↔ ∃ request ∈ requests, ∃ c ∈ deletedCoordinates validKey request,
    key = deletionKey sha256 c request

theorem rowsOf_empty : RowsOf validKey sha256 ∅ ∅ := by
  intro key
  simp

theorem RowsOf.index (exactly : RowsOf validKey sha256 rows requests) (request : Event) :
    RowsOf validKey sha256 (DeletionIndex.index sha256 validKey rows request)
      (insert request requests) := by
  intro key
  rw [mem_index, exactly key, Set.exists_mem_insert, or_comm]

theorem RowsOf.deleted_iff (exactly : RowsOf validKey sha256 rows requests) :
    DeletionIndex.deleted sha256 rows c since = true ↔
      ∃ request ∈ requests, ∃ other ∈ deletedCoordinates validKey request,
        deletionKeyPrefix sha256 other = deletionKeyPrefix sha256 c ∧
          since.toUint64 ≤ request.createdAt.toUint64 := by
  rw [Boltcoord.deleted_iff]
  constructor
  · intro ⟨key, member, shared, later⟩
    obtain ⟨request, inside, other, named, same⟩ := (exactly key).mp member
    subst same
    have equal := deletionKey_prefix.mp shared
    rw [← equal, deletionKey_lt, not_lt] at later
    exact ⟨request, inside, other, named, equal, later⟩
  · intro ⟨request, inside, other, named, equal, later⟩
    refine ⟨_, (exactly _).mpr ⟨request, inside, other, named, rfl⟩, deletionKey_prefix.mpr equal, ?_⟩
    rw [← equal, deletionKey_lt, not_lt]
    exact later

end Bahia.Boltcoord
