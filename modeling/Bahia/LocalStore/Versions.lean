import Bahia.Boltcoord.QueryOrder
import Bahia.LocalStore.IndexKeys
import Bahia.LocalStore.Saves

/-! Which stored events are read as versions of a coordinate. A short `d` is looked up among all
the `d` tags of an event, any other is compared with the first one. -/

namespace Bahia.Boltcoord
open Foundation Nostr Boltdb Localstore List

/-- The scan reads the stored events that a filter accepts, newest first. -/
def Scans (scan : Scan) (st : Store) : Prop :=
  ∀ filter limit, filter.ids = none →
    ∃ events, NewestFirst st filter events ∧ scan filter limit = capped limit events

def Coordinate.Reads (c : Coordinate) (event : Event) : Prop :=
  event.kind = c.kind ∧ event.pubKey = c.author ∧ (Kind.isAddressable c.kind = true →
    if tagIndexable c.d then Tags.containsAny event.tags "d" [c.d] = true
    else Tags.getD event.tags = c.d)

/-- No stored event names a short `d` in a later `d` tag only. -/
def Unambiguous (st : Store) (c : Coordinate) : Prop :=
  Kind.isAddressable c.kind = true → tagIndexable c.d = true → ∀ event, st.backend.Holds event →
    event.kind = c.kind → event.pubKey = c.author →
      Tags.containsAny event.tags "d" [c.d] = true → Tags.getD event.tags = c.d

/-- The versions read are those of the coordinate, and no other event stops a replacement or falls
to one, or to a deletion of the coordinate. -/
structure Exact (sha256 : Bytes → FixedBytes 32) (validKey : PubKey → Bool) (index : Index) (scan : Scan)
    (st : Store) (c : Coordinate) : Prop where
  versions : ∀ upTo event, event ∈ versions scan c upTo none ↔
    st.backend.Holds event ∧ coordinateOf event = c ∧ Within upTo event
  refuses : ∀ event, coordinateOf event = c → (st.replace sha256 index scan event).2 = false →
    ∃ version, st.backend.Holds version ∧ coordinateOf version = c ∧ isOlder version event = false
  supersedes : ∀ event lost, coordinateOf event = c → st.backend.Holds lost →
    ¬ (st.replace sha256 index scan event).1.backend.Holds lost → coordinateOf lost = c
  deletes : ∀ request lost, (∀ other ∈ deletedCoordinates validKey request, other = c) →
    st.backend.Holds lost → ¬ (st.applyDeletion sha256 validKey scan request).1.backend.Holds lost →
      Store.Names request lost ∨ coordinateOf lost = c ∧ Within request.createdAt lost

variable {scan : Scan} {st : Store} {c : Coordinate} {event lost : Event} {upTo : Timestamp}
  {limit : Option Nat} {sha256 : Bytes → FixedBytes 32} {validKey : PubKey → Bool}
  {md5 : Bytes → FixedBytes 16}

theorem mem_of_capped (member : event ∈ capped limit events) : event ∈ events := by
  cases limit with
  | none => exact member
  | some => exact mem_of_mem_take member

section Reads
variable (scans : Scans scan st)
include scans

theorem mem_scan (filter : Filter) (plain : filter.ids = none) :
    (event ∈ scan filter none ↔ st.backend.Holds event ∧ filter.accepts event = true) ∧
      ∀ limit, event ∈ scan filter limit → st.backend.Holds event ∧ filter.accepts event = true := by
  refine ⟨?_, fun limit member => ?_⟩
  · obtain ⟨events, newest, same⟩ := scans filter none plain
    rw [same]
    exact newest.members event
  · obtain ⟨events, newest, same⟩ := scans filter limit plain
    rw [same] at member
    exact (newest.members event).mp (mem_of_capped member)

theorem mem_versions_reads :
    (event ∈ versions scan c upTo none ↔
      st.backend.Holds event ∧ c.Reads event ∧ Within upTo event) ∧
    ∀ limit, event ∈ versions scan c upTo limit →
      st.backend.Holds event ∧ c.Reads event ∧ Within upTo event := by
  have read (tags : List (String × List String)) :
      (event ∈ scan _ none ↔ _) ∧ ∀ limit, event ∈ scan _ limit → _ :=
    mem_scan scans (authorFilter c.kind c.author tags upTo) rfl
  simp only [accepts_author] at read
  simp only [authorFilter] at read
  unfold versions Coordinate.dIndexed Coordinate.Reads
  cases addressable : Kind.isAddressable c.kind with
  | false => simpa [and_assoc] using read []
  | true =>
    by_cases indexed : tagIndexable c.d = true
    · simpa [indexed, and_assoc] using read [("d", [c.d])]
    have plain := (read []).1
    simp only [Bool.not_true, Bool.false_or, indexed, Bool.false_eq_true, if_false]
    refine ⟨?_, fun limit member => ?_⟩
    · simp only [capped, mem_filter]
      grind
    · have member := mem_filter.mp (mem_of_capped member)
      grind

end Reads

theorem reads_iff (proper : c.Proper) (unambiguous : Unambiguous st c) (held : st.backend.Holds event) :
    c.Reads event ↔ coordinateOf event = c := by
  unfold Coordinate.Reads
  cases addressable : Kind.isAddressable c.kind with
  | false => simp [coordinateOf_replaceable proper addressable]
  | true =>
    rw [coordinateOf_addressable addressable]
    by_cases indexed : tagIndexable c.d = true
    · have first := unambiguous addressable indexed event held
      have present : c.d ≠ "" := by grind [tagIndexable]
      grind [containsAny_getD]
    · simp [indexed]

theorem reads_of_vendored (keys : KeysApart md5 {event | st.backend.Holds event} (coordinateOf event))
    (held : st.backend.Holds lost)
    (found : vendored md5 (BoltBackend.versionFilter event) lost = true) :
    (coordinateOf event).Reads lost := by
  unfold BoltBackend.versionFilter at found
  cases addressable : Kind.isAddressable event.kind with
  | false =>
    rw [addressable] at found
    obtain ⟨kind, author, _⟩ : lost.kind = event.kind ∧ _ ∧ _ := vendored_author.mp found
    have placed : Kind.isAddressable (coordinateOf event).kind = false := addressable
    exact ⟨kind, keys.author lost held kind author, fun other => nomatch placed.symm.trans other⟩
  | true =>
    rw [addressable] at found
    obtain ⟨kind, author, ⟨value, indexed, carries, same⟩, _⟩ :
      lost.kind = event.kind ∧ lost.pubKey = event.pubKey ∧ _ ∧ _ := vendored_tagged.mp found
    have d : (coordinateOf event).d = Tags.getD event.tags := if_pos addressable
    have own := keys.d lost held kind author value indexed carries (by rw [d]; exact same)
    rw [own] at indexed carries
    have short : tagIndexable (coordinateOf event).d = true := indexed
    exact ⟨kind, author, fun _ => by rwa [if_pos short]⟩

theorem replaceEvent_removes (keys : KeysApart md5 {event | st.backend.Holds event} (coordinateOf event))
    (held : st.backend.Holds lost)
    (gone : ¬ (st.backend.replaceEvent (vendored md5) event).1.Holds lost) :
    (coordinateOf event).Reads lost := by
  unfold BoltBackend.replaceEvent at gone
  split at gone
  · exact absurd held gone
  rename_i free
  dsimp only at gone
  generalize listed : st.backend.query (vendored md5) (BoltBackend.versionFilter event) 10 = previous at gone
  have removed : ∃ older ∈ previous, older.id = lost.id := by
    by_contra none
    have kept : ((previous.filter (isOlder · event)).foldl
        (fun b older => b.deleteEvent older.id) st.backend).Holds lost :=
      BoltBackend.deleteEvents_holds.mpr ⟨held, by grind⟩
    apply gone
    split
    · have apart : event.id ≠ lost.id := fun same => free (same ▸ held.mem)
      exact (Bucket.get_put_of_ne _ apart _).trans kept
    · exact kept
  obtain ⟨older, member, same⟩ := removed
  rw [← listed] at member
  obtain ⟨stored, found⟩ := BoltBackend.mem_found.mp (mem_of_mem_take member)
  rw [← stored.eq held same]
  exact reads_of_vendored keys stored found

/-- The versions read are exactly the coordinate's unless a stored event of its kind and author
carries its `d` behind another one. -/
theorem versions_exact_iff (scans : Scans scan st) (proper : c.Proper)
    (keys : KeysApart md5 {event | st.backend.Holds event} c) :
    Exact sha256 validKey (vendored md5) scan st c ↔ Unambiguous st c := by
  constructor
  · intro exact addressable indexed event held kind author carries
    have read := (exact.versions 0 event).mp ((mem_versions_reads scans).1.mpr
      ⟨held, ⟨kind, author, fun _ => by simpa [indexed] using carries⟩, .inl rfl⟩)
    exact ((coordinateOf_addressable addressable).mp read.2.1).2.2
  · intro unambiguous
    have reads {event : Event} (held : st.backend.Holds event) := reads_iff proper unambiguous held
    have version {event : Event} {upTo : Timestamp} {limit : Option Nat}
        (member : event ∈ versions scan c upTo limit) :
        st.backend.Holds event ∧ coordinateOf event = c ∧ Within upTo event := by
      obtain ⟨held, read, within⟩ := (mem_versions_reads scans).2 limit member
      exact ⟨held, (reads held).mp read, within⟩
    refine ⟨?_, ?_, ?_, ?_⟩
    · intro upTo event
      rw [(mem_versions_reads scans).1]
      grind
    · intro event placed refused
      unfold Store.replace at refused
      dsimp only at refused
      rw [placed] at refused
      generalize listed : versions scan c 0 (if c.dIndexed then some 1 else none) = current at refused
      split at refused
      · rename_i late
        cases first : current.head? with
        | none => simp [first] at late
        | some newest =>
          have placed := version (listed ▸ List.mem_of_mem_head? first)
          exact ⟨newest, placed.1, placed.2.1, by simpa [first] using late⟩
      · cases refused
    · intro event lost placed held gone
      unfold Store.replace at gone
      dsimp only at gone
      rw [placed] at gone
      generalize listed : versions scan c 0 (if c.dIndexed then some 1 else none) = current at gone
      split at gone
      · exact absurd held gone
      have written : ¬ (st.backend.replaceEvent (vendored md5) event).1.Holds lost → _ :=
        replaceEvent_removes (placed ▸ keys) held
      rw [placed, reads held] at written
      split at gone
      · rw [unindexTags_backend] at gone
        exact written gone
      rw [Store.deleteAll_holds, unindexTags_backend] at gone
      by_contra elsewhere
      refine gone ⟨by_contra fun gone => elsewhere (written gone), ?_⟩
      intro target member same
      obtain ⟨stored, placed, _⟩ := version (listed ▸ member)
      exact elsewhere (stored.eq held same ▸ placed)
    · intro request lost only held gone
      by_cases named : Store.Names request lost
      · exact .inl named
      right
      simp only [Store.applyDeletion_holds, held, named, not_false_eq_true, true_and, not_forall,
        not_not] at gone
      obtain ⟨other, member, target, found, same⟩ := gone
      rw [only other member] at found
      obtain ⟨stored, placed, within⟩ := version found
      rw [← stored.eq held same]
      exact ⟨placed, within⟩

def twiceNamed (id : Byte) (names : List String) : Event :=
  sampleEvent (sampleID id) 10 30900 (names.map fun name => ["d", name])

def twiceNamedStore : Store := ⟨BoltBackend.empty.put (twiceNamed 1 ["api", "web"]), ∅⟩

theorem versions_exact_iff_first : Exact sameHash (fun _ => true) (vendored startHash)
    (plainScan twiceNamedStore) twiceNamedStore (newCoordinate 30900 (FixedBytes.ofByte 31 2) "api") := by
  have stored {event : Event} (held : twiceNamedStore.backend.Holds event) :
      event = twiceNamed 1 ["api", "web"] :=
    ((BoltBackend.put_holds (Bucket.not_mem_empty _)).mp held).resolve_right
      (BoltBackend.not_empty_holds event)
  refine (versions_exact_iff (fun filter limit _ => ⟨_, newestFirst_matching _ filter, rfl⟩)
    ⟨by decide, by decide⟩ ⟨?_, ?_⟩).mpr ?_
  · intro event held _ _
    rw [stored held]
    rfl
  · intro event held _ _ value _ carries same
    rw [stored held] at carries
    have named : "api" = value ∨ "web" = value := by simpa [twiceNamed, Tags.containsAny] using carries
    rcases named with rfl | rfl
    · rfl
    · exact absurd same (by decide +kernel)
  · intro _ _ event held _ _ _
    rw [stored held]
    rfl

/-- The service with two names is read as a version of the second one, and replaced by one. -/
theorem second_name_is_superseded :
    let c := newCoordinate 30900 (FixedBytes.ofByte 31 2) "web"
    let scan := plainScan twiceNamedStore
    twiceNamed 1 ["api", "web"] ∈ versions scan c 0 none ∧
      coordinateOf (twiceNamed 1 ["api", "web"]) ≠ c ∧
      coordinateOf { twiceNamed 3 ["web"] with createdAt := 20 } = c ∧
      (twiceNamedStore.replace sameHash (vendored startHash) scan
        { twiceNamed 3 ["web"] with createdAt := 20 }).1.backend.events.get
          (twiceNamed 1 ["api", "web"]).id = none := by
  decide +kernel

end Bahia.Boltcoord
