import Bahia.Boltcoord.TagReads

/-! `Store.Query` against the plain reading of a filter: the held events it accepts, in the
order of the protocol. -/

namespace Bahia.Boltcoord
open Foundation Nostr Boltdb
variable {sha256 : Bytes → FixedBytes 32} {st : Store}

/-- The held events a filter accepts, later `created_at` first and then the lower id. -/
def Store.matching (st : Store) (filter : Filter) : List Event :=
  (st.backend.events.values.filter filter.accepts).insertionSort
    fun first second => second.rank ≤ first.rank

/-- The eventstore's own read of the filters it indexes. -/
def Answers (indexed : Scan) (st : Store) : Prop :=
  ∀ filter limit, filter.ids = none → needsTagIndex filter = false →
    indexed filter limit = capped limit (st.matching filter)

/-- The held events a filter accepts, each once and newest first. -/
structure NewestFirst (st : Store) (filter : Filter) (events : List Event) : Prop where
  once : events.Nodup
  members : ∀ event, event ∈ events ↔ st.backend.Holds event ∧ filter.accepts event = true
  ordered : events.Pairwise fun first second => second.createdAt ≤ first.createdAt

/-- No two held events that the filter accepts were created at the same time. -/
def Untied (st : Store) (filter : Filter) : Prop :=
  ∀ first second, st.backend.Holds first → st.backend.Holds second →
    filter.accepts first = true → filter.accepts second = true →
      first.createdAt = second.createdAt → first = second

section Matching

theorem mem_matching :
    event ∈ st.matching filter ↔ st.backend.Holds event ∧ filter.accepts event = true := by
  rw [Store.matching, List.mem_insertionSort, List.mem_filter, BoltBackend.mem_values]

theorem matching_sorted (st : Store) (filter : Filter) :
    (st.matching filter).Pairwise fun first second => second.rank ≤ first.rank := by
  have total : Std.Total fun first second : Event => second.rank ≤ first.rank :=
    ⟨fun first second => le_total second.rank first.rank⟩
  have trans : IsTrans Event fun first second => second.rank ≤ first.rank :=
    ⟨fun _ _ _ one other => other.trans one⟩
  exact List.pairwise_insertionSort _ _

theorem values_nodup (b : BoltBackend) : b.events.values.Nodup := by
  rw [Bucket.values, List.Nodup, List.pairwise_filterMap]
  apply b.events.keys_nodup.imp
  intro first second different one oneRead other otherRead same
  apply different
  rw [← b.keyed oneRead, ← b.keyed otherRead, same]

theorem matching_nodup (st : Store) (filter : Filter) : (st.matching filter).Nodup := by
  rw [Store.matching, (List.perm_insertionSort _ _).nodup_iff]
  exact (values_nodup st.backend).filter _

theorem newestFirst_matching (st : Store) (filter : Filter) :
    NewestFirst st filter (st.matching filter) :=
  ⟨matching_nodup st filter, fun _ => mem_matching,
    (matching_sorted st filter).imp createdAt_le_of_rank_le⟩

theorem NewestFirst.eq_matching (newest : NewestFirst st filter events) (untied : Untied st filter) :
    events = st.matching filter := by
  have same : events.Perm (st.matching filter) := by
    rw [List.perm_ext_iff_of_nodup newest.once (matching_nodup st filter)]
    intro event
    rw [newest.members, mem_matching]
  have ranked : events.Pairwise fun first second => second.rank ≤ first.rank := by
    apply (newest.ordered.and newest.once).imp_of_mem
    intro first second firstMember secondMember ⟨before, different⟩
    obtain ⟨firstHeld, firstMatches⟩ := (newest.members first).mp firstMember
    obtain ⟨secondHeld, secondMatches⟩ := (newest.members second).mp secondMember
    have apart : second.createdAt ≠ first.createdAt := fun tie =>
      different (untied first second firstHeld secondHeld firstMatches secondMatches tie.symm)
    exact (isOlder_iff_rank.mp (isOlder_iff.mpr (.inl (lt_of_le_of_ne before apart)))).le
  apply same.eq_of_pairwise ?_ ranked (matching_sorted st filter)
  intro first second firstMember secondMember one other
  have ids := (rank_eq_iff.mp (le_antisymm other one)).2
  exact ((newest.members first).mp firstMember).1.eq (mem_matching.mp secondMember).1 ids

end Matching

section Merge

theorem newer_iff : newer first second = true ↔ second.rank < first.rank := by
  rw [← isOlder_iff_rank, isOlder_iff]
  unfold newer
  by_cases same : first.createdAt = second.createdAt
  · simp [same]
  · simp [same, Ne.symm same]

theorem mergeNewestFirst_singleton (source : List Event) : mergeNewestFirst [source] = source := by
  simp [mergeNewestFirst]

theorem mem_mergeNewestFirst :
    event ∈ mergeNewestFirst sources ↔ ∃ source ∈ sources, event ∈ source := by
  induction sources with
  | nil => simp [mergeNewestFirst]
  | cons source rest ih =>
    have step : mergeNewestFirst (source :: rest) =
        source.merge (mergeNewestFirst rest) fun first second => !newer second first := rfl
    rw [step, List.mem_merge, ih]
    simp

theorem mergeNewestFirst_ordered (ordered : ∀ source ∈ sources, source.Pairwise
      fun first second => second.createdAt ≤ first.createdAt) :
    (mergeNewestFirst sources).Pairwise fun first second => second.createdAt ≤ first.createdAt := by
  induction sources with
  | nil => exact .nil
  | cons source rest ih =>
    obtain ⟨one, others⟩ := List.forall_mem_cons.mp ordered
    apply pairwise_merge ?_ ?_ ?_ one (ih others)
    · intro first second third early late
      exact late.trans early
    · intro first second kept
      rw [Bool.not_eq_true', ← Bool.not_eq_true, newer_iff, not_lt] at kept
      exact createdAt_le_of_rank_le kept
    · intro first second swapped
      rw [Bool.not_eq_false', newer_iff] at swapped
      exact createdAt_le_of_rank_le swapped.le

end Merge

section Driving
variable {filter : Filter} {name : String}

variable {values : List String} {indexed : Scan}

theorem containsAny_iff :
    Tags.containsAny tags name values = true ↔
      ∃ value ∈ values, Tags.containsAny tags name [value] = true := by
  simp only [Tags.containsAny, List.any_eq_true]
  constructor
  · intro ⟨tag, member, carries⟩
    split at carries
    next key value rest =>
      simp only [Bool.and_eq_true, beq_iff_eq, List.contains_iff_mem] at carries
      exact ⟨value, carries.2, _, member, by simp [carries.1]⟩
    next => cases carries
  · intro ⟨value, listed, tag, member, carries⟩
    refine ⟨tag, member, ?_⟩
    split at carries
    next key other rest =>
      simp only [Bool.and_eq_true, beq_iff_eq, List.contains_cons, List.contains_nil,
        Bool.or_false] at carries
      simp [carries.1, carries.2, listed]
    next => cases carries

theorem lookup_of_mem {tags : List (String × List String)}
    (member : (name, values) ∈ tags) : ∃ first, tags.lookup name = some first ∧
      (name, first) ∈ tags := by
  induction tags with
  | nil => cases member
  | cons entry rest ih =>
    obtain ⟨key, listed⟩ := entry
    by_cases same : name = key
    · subst same
      exact ⟨listed, List.lookup_cons_self, List.mem_cons_self⟩
    have later : (name, values) ∈ rest := by
      rcases List.mem_cons.mp member with equal | inside
      · exact absurd (congrArg Prod.fst equal) same
      · exact inside
    obtain ⟨first, found, inside⟩ := ih later
    refine ⟨first, ?_, List.mem_cons_of_mem _ inside⟩
    rw [List.lookup_cons, beq_eq_false_iff_ne.mpr same]
    exact found

theorem unindexedFilterTag_some (driving : unindexedFilterTag filter = some name) :
    name.utf8ByteSize = 1 ∧ ∀ event, filter.accepts event = true →
      Tags.containsAny event.tags name (filter.tagValues name) = true := by
  obtain ⟨⟨key, values⟩, kept, same⟩ := List.mem_map.mp (List.min?_mem driving)
  obtain ⟨member, short⟩ := List.mem_filter.mp kept
  simp only [Bool.and_eq_true, beq_iff_eq] at same short
  subst same
  refine ⟨short.1, ?_⟩
  intro event accepted
  obtain ⟨first, found, inside⟩ := lookup_of_mem member
  simp only [Filter.accepts, Filter.matchesIgnoringTimestampConstraints, Bool.and_eq_true] at accepted
  rw [Filter.tagValues, found]
  exact List.all_eq_true.mp accepted.1.1.2 _ inside

/-- The filter the eventstore reads the short values of the driving tag with. -/
def restFilter (filter : Filter) (name : String) : Filter where
  kinds := filter.kinds
  authors := filter.authors
  since := filter.since
  upTo := filter.upTo
  tags := [(name, (filter.tagValues name).filter tagIndexable)]

theorem restFilter_indexed (filter : Filter) (name : String) :
    needsTagIndex (restFilter filter name) = false := by
  have short : (((filter.tagValues name).filter tagIndexable).any fun value =>
      !tagIndexable value) = false := by
    rw [List.any_eq_false]
    intro value member
    rw [(List.mem_filter.mp member).2]
    simp
  simp [needsTagIndex, unindexedFilterTag, restFilter, short]

theorem restFilter_accepts (accepted : filter.accepts event = true) :
    (restFilter filter name).accepts event =
      Tags.containsAny event.tags name ((filter.tagValues name).filter tagIndexable) := by
  simp only [Filter.accepts, Filter.matchesIgnoringTimestampConstraints, Bool.and_eq_true] at accepted
  obtain ⟨⟨⟨⟨⟨_, kinds⟩, authors⟩, _⟩, early⟩, late⟩ := accepted
  have tags : (restFilter filter name).matchesIgnoringTimestampConstraints event =
      Tags.containsAny event.tags name ((filter.tagValues name).filter tagIndexable) := by
    simp only [Filter.matchesIgnoringTimestampConstraints, restFilter, Option.all_none, kinds,
      authors, List.all_cons, List.all_nil, Bool.true_and, Bool.and_true]
  show (_ && !(filter.since != 0 && decide (event.createdAt < filter.since)) &&
    !(filter.upTo != 0 && decide (filter.upTo < event.createdAt))) = _
  rw [tags, early, late, Bool.and_true, Bool.and_true]

def sourcesOf (sha256 : Bytes → FixedBytes 32) (indexed : Scan) (st : Store) (filter : Filter)
    (name : String) : List (List Event) :=
  let long := ((filter.tagValues name).filter fun value => !tagIndexable value).map fun value =>
    tagEvents sha256 st name value filter.since filter.upTo
  if ((filter.tagValues name).filter tagIndexable).isEmpty then long
  else long ++ [indexed (restFilter filter name) none]

theorem query_some (driving : unindexedFilterTag filter = some name) :
    st.query sha256 indexed filter limit = capped limit
      ((firstOfEach Event.id (mergeNewestFirst (sourcesOf sha256 indexed st filter name))).filter
        filter.accepts) := by
  unfold Store.query
  rw [driving]
  rfl

theorem query_none (driving : unindexedFilterTag filter = none) :
    st.query sha256 indexed filter limit = indexed filter limit := by
  unfold Store.query
  rw [driving]

theorem mem_sourcesOf :
    source ∈ sourcesOf sha256 indexed st filter name ↔
      (∃ value ∈ filter.tagValues name, tagIndexable value = false ∧
        source = tagEvents sha256 st name value filter.since filter.upTo) ∨
      ((filter.tagValues name).filter tagIndexable ≠ [] ∧
        source = indexed (restFilter filter name) none) := by
  have long : source ∈ ((filter.tagValues name).filter fun value => !tagIndexable value).map
      (fun value => tagEvents sha256 st name value filter.since filter.upTo) ↔
        ∃ value ∈ filter.tagValues name, tagIndexable value = false ∧
          source = tagEvents sha256 st name value filter.since filter.upTo := by
    simp only [List.mem_map, List.mem_filter, Bool.not_eq_true', and_assoc]
    simp only [eq_comm]
  unfold sourcesOf
  split
  next none =>
    rw [long, List.isEmpty_iff.mp none]
    simp
  next some =>
    rw [List.mem_append, long, List.mem_singleton, and_iff_right]
    rwa [List.isEmpty_iff] at some

section
variable (tagged : Indexed sha256 st) (answers : Answers indexed st)
  (driving : unindexedFilterTag filter = some name)
include tagged answers driving

theorem sourcesOf_spec : (∀ source ∈ sourcesOf sha256 indexed st filter name,
      (∀ event ∈ source, st.backend.Holds event) ∧
        source.Pairwise fun first second => second.createdAt ≤ first.createdAt) ∧
      ∀ event, st.backend.Holds event → filter.accepts event = true →
        ∃ source ∈ sourcesOf sha256 indexed st filter name, event ∈ source := by
  obtain ⟨short, carried⟩ := unindexedFilterTag_some driving
  have rest : indexed (restFilter filter name) none = st.matching (restFilter filter name) :=
    answers _ none rfl (restFilter_indexed filter name)
  constructor
  · intro source member
    rcases mem_sourcesOf.mp member with ⟨value, _, unindexed, same⟩ | ⟨_, same⟩
    · rw [same]
      exact ⟨fun event inside => ((mem_tagEvents tagged short unindexed).mp inside).1,
        tagEvents_newest_first tagged short⟩
    · rw [same, rest]
      exact ⟨fun event inside => (mem_matching.mp inside).1,
        (newestFirst_matching st _).ordered⟩
  · intro event held accepted
    obtain ⟨value, listed, carries⟩ := containsAny_iff.mp (carried event accepted)
    by_cases unindexed : tagIndexable value = false
    · refine ⟨_, mem_sourcesOf.mpr (.inl ⟨value, listed, unindexed, rfl⟩), ?_⟩
      refine (mem_tagEvents tagged short unindexed).mpr ⟨held, carries, ?_⟩
      simp only [Filter.accepts, Bool.and_eq_true, Bool.not_eq_true', Bool.and_eq_false_iff,
        bne_eq_false_iff_eq, decide_eq_false_iff_not, not_lt] at accepted
      refine ⟨?_, ?_⟩
      · intro positive
        exact accepted.2.resolve_left positive.ne'
      · intro positive
        exact accepted.1.2.resolve_left positive.ne'
    · have kept := List.mem_filter.mpr ⟨listed, Bool.not_eq_false _ ▸ unindexed⟩
      refine ⟨_, mem_sourcesOf.mpr (.inr ⟨List.ne_nil_of_mem kept, rfl⟩), ?_⟩
      rw [rest, mem_matching, restFilter_accepts accepted]
      exact ⟨held, containsAny_iff.mpr ⟨value, kept, carries⟩⟩

theorem merged_newestFirst : NewestFirst st filter
      ((firstOfEach Event.id (mergeNewestFirst (sourcesOf sha256 indexed st filter name))).filter
        filter.accepts) := by
  obtain ⟨sources, missed⟩ := sourcesOf_spec tagged answers driving
  have held : ∀ event ∈ mergeNewestFirst (sourcesOf sha256 indexed st filter name),
      st.backend.Holds event := by
    intro event member
    obtain ⟨source, listed, inside⟩ := mem_mergeNewestFirst.mp member
    exact (sources source listed).1 event inside
  have ordered := mergeNewestFirst_ordered fun source listed => (sources source listed).2
  refine ⟨?_, ?_, (ordered.sublist (firstOfEach_sublist Event.id _)).filter _⟩
  · apply List.Nodup.filter
    exact (firstOfEach_distinct Event.id _).imp fun different same => different (congrArg _ same)
  · intro event
    rw [List.mem_filter, mem_firstOfEach fun first one second other same =>
      (held first one).eq (held second other) same, mem_mergeNewestFirst]
    constructor
    · intro ⟨⟨source, listed, inside⟩, accepted⟩
      exact ⟨(sources source listed).1 event inside, accepted⟩
    · intro ⟨stored, accepted⟩
      exact ⟨missed event stored accepted, accepted⟩

end

end Driving

/-- `Query` yields the held events the filter accepts, each once and newest first, cut at the
limit: in the order of the protocol if no two of them tie or the eventstore indexes the
filter, and with ties in any order else. -/
theorem query_newest_first (sha256 : Bytes → FixedBytes 32) (st : Store) (indexed : Scan)
    (filter : Filter) (limit : Option Nat) (tagged : Indexed sha256 st)
    (answers : Answers indexed st) (anyID : filter.ids = none) :
    ∃ events, NewestFirst st filter events ∧
      st.query sha256 indexed filter limit = capped limit events ∧
        (needsTagIndex filter = false ∨ Untied st filter → events = st.matching filter) := by
  cases driving : unindexedFilterTag filter with
  | none =>
    have plain : needsTagIndex filter = false := by simp [needsTagIndex, driving]
    refine ⟨_, newestFirst_matching st filter, ?_, fun _ => rfl⟩
    rw [query_none driving, answers filter limit anyID plain]
  | some =>
    have newest := merged_newestFirst tagged answers driving
    refine ⟨_, newest, query_some driving, ?_⟩
    intro either
    rcases either with plain | untied
    · simp [needsTagIndex, driving] at plain
    · exact newest.eq_matching untied

/-- An event with an empty `r` tag, which only the tag index finds. -/
def emptyTagged (id : Byte) (createdAt : Timestamp) : Event :=
  sampleEvent (FixedBytes.ofByte 31 id) createdAt 1 [["r", ""]]

def emptyTaggedStore (later : Timestamp) : Store :=
  (((⟨BoltBackend.empty, ∅⟩ : Store).save sameHash (emptyTagged 1 10)).1.save sameHash
    (emptyTagged 3 later)).1

theorem emptyTagged_free (later : Timestamp) :
    (emptyTagged 3 later).id ∉ (BoltBackend.empty.put (emptyTagged 1 10)).events := by
  intro member
  rcases Bucket.mem_put.mp member with same | impossible
  · simp [emptyTagged] at same
  · exact Bucket.not_mem_empty _ impossible

theorem emptyTaggedStore_eq (later : Timestamp) : emptyTaggedStore later =
    { ((⟨BoltBackend.empty.put (emptyTagged 1 10),
        ((⟨BoltBackend.empty, ∅⟩ : Store).indexTags sameHash (emptyTagged 1 10)).tags⟩ : Store).indexTags
          sameHash (emptyTagged 3 later)) with
      backend := (BoltBackend.empty.put (emptyTagged 1 10)).put (emptyTagged 3 later) } := by
  unfold emptyTaggedStore
  rw [Store.save_fresh (Bucket.not_mem_empty (emptyTagged 1 10).id), Store.save_fresh (emptyTagged_free later)]

theorem emptyTaggedStore_holds :
    (emptyTaggedStore later).backend.Holds event ↔
      event = emptyTagged 3 later ∨ event = emptyTagged 1 10 := by
  rw [emptyTaggedStore_eq]
  rw [BoltBackend.put_holds (emptyTagged_free later), BoltBackend.put_holds (Bucket.not_mem_empty _),
    or_iff_left (BoltBackend.not_empty_holds event)]

theorem emptyTaggedStore_indexed (dated : 0 ≤ later) :
    Indexed sameHash (emptyTaggedStore later) := by
  have rows : ∀ row, row ∈ (emptyTaggedStore later).tags ↔
      row ∈ tagKeys sameHash (emptyTagged 1 10) ∨ row ∈ tagKeys sameHash (emptyTagged 3 later) := by
    intro row
    rw [emptyTaggedStore_eq]
    rw [Store.mem_indexTags, Store.mem_indexTags, or_iff_right (Bucket.not_mem_empty row)]
  refine ⟨?_, ?_, ?_⟩
  · intro event held row listed
    rcases emptyTaggedStore_holds.mp held with rfl | rfl
    · exact (rows row).mpr (.inr listed)
    · exact (rows row).mpr (.inl listed)
  · intro row stored
    rcases (rows row).mp stored with listed | listed
    · exact ⟨_, by decide, listed, .inl (emptyTaggedStore_holds.mpr (.inr rfl))⟩
    · exact ⟨_, dated, listed, .inl (emptyTaggedStore_holds.mpr (.inl rfl))⟩
  · intro event held
    rcases emptyTaggedStore_holds.mp held with rfl | rfl
    · exact dated
    · decide

def plainScan (st : Store) : Scan := fun filter limit => capped limit (st.matching filter)

def emptyTagFilter : Filter := { tags := [("r", [""])] }

theorem query_newest_first_untied :
    Indexed sameHash (emptyTaggedStore 20) ∧ Untied (emptyTaggedStore 20) emptyTagFilter ∧
      (emptyTaggedStore 20).query sameHash (plainScan (emptyTaggedStore 20)) emptyTagFilter none =
        (emptyTaggedStore 20).matching emptyTagFilter := by
  have tagged : Indexed sameHash (emptyTaggedStore 20) := emptyTaggedStore_indexed (by decide)
  have untied : Untied (emptyTaggedStore 20) emptyTagFilter := by
    intro first second one other _ _ tie
    rcases emptyTaggedStore_holds.mp one with rfl | rfl <;>
      rcases emptyTaggedStore_holds.mp other with rfl | rfl <;>
      first | rfl | exact absurd tie (by decide)
  obtain ⟨events, _, read, exactly⟩ := query_newest_first sameHash (emptyTaggedStore 20)
    (plainScan (emptyTaggedStore 20)) emptyTagFilter none tagged (fun _ _ _ _ => rfl) rfl
  exact ⟨tagged, untied, read.trans (exactly (.inr untied))⟩

/-- Two events of one second: the range of the tag index yields the higher id first. -/
theorem tie_yields_higher_id :
    ¬ ∀ (sha256 : Bytes → FixedBytes 32) (st : Store) (indexed : Scan) (filter : Filter)
        (limit : Option Nat), Indexed sha256 st → Answers indexed st → filter.ids = none →
      st.query sha256 indexed filter limit = capped limit (st.matching filter) := by
  intro claimed
  have same := claimed sameHash (emptyTaggedStore 10) (plainScan (emptyTaggedStore 10))
    emptyTagFilter none (emptyTaggedStore_indexed (by decide)) (fun _ _ _ _ => rfl) rfl
  have driving : unindexedFilterTag emptyTagFilter = some "r" := by decide
  have sources : sourcesOf sameHash (plainScan (emptyTaggedStore 10)) (emptyTaggedStore 10)
      emptyTagFilter "r" = [tagEvents sameHash (emptyTaggedStore 10) "r" "" 0 0] := rfl
  rw [query_some driving, sources, mergeNewestFirst_singleton] at same
  have first := congrArg (fun events => events.map Event.id) same
  exact absurd first (by decide +kernel)

end Bahia.Boltcoord
