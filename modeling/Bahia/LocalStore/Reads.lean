import Bahia.Boltcoord.AddressText
import Bahia.Boltcoord.Writes
import Bahia.LocalStore.Paging

/-! What the store's reads find when every coordinate has one version. -/

namespace Bahia.Nostr
open Foundation

/-- Every `d` tag carries the value the coordinate is read from. -/
def SingleD (tags : Tags) : Prop :=
  ∀ value, Tags.containsAny tags "d" [value] = true → Tags.getD tags = value

theorem containsAny_find (found : Tags.find tags name = some value) :
    Tags.containsAny tags name [value] = true := by
  obtain ⟨tag, member, read⟩ := List.exists_of_findSome?_eq_some found
  apply List.any_eq_true.mpr
  refine ⟨tag, member, ?_⟩
  split at read
  next first second rest =>
    split at read
    next same =>
      cases read
      simp [same]
    next => cases read
  next => cases read

theorem containsAny_getD (present : Tags.getD tags ≠ "") :
    Tags.containsAny tags "d" [Tags.getD tags] = true := by
  cases found : Tags.find tags "d" with
  | none => simp [Tags.getD, Tags.value, found] at present
  | some value =>
    have read : Tags.getD tags = value := by simp [Tags.getD, Tags.value, found]
    rw [read]
    exact containsAny_find found

end Bahia.Nostr

namespace Bahia.Boltcoord
open Foundation Nostr

/-- A coordinate of a state kind, as `newCoordinate` writes it. -/
structure Coordinate.Proper (c : Coordinate) : Prop where
  state : Kind.isState c.kind = true
  ignored : Kind.isAddressable c.kind = false → c.d = ""

theorem coordinateOf_proper (state : Kind.isState event.kind = true) :
    (coordinateOf event).Proper := by
  refine ⟨state, ?_⟩
  intro plain
  simp only [coordinateOf, newCoordinate] at plain ⊢
  rw [plain]
  rfl

theorem coordinateOf_eq :
    coordinateOf event = c ↔ event.kind = c.kind ∧ event.pubKey = c.author ∧
      (if Kind.isAddressable event.kind then Tags.getD event.tags else "") = c.d := by
  obtain ⟨kind, author, d⟩ := c
  simp [coordinateOf, newCoordinate]

end Bahia.Boltcoord

namespace Bahia.Localstore
open Foundation Nostr Boltdb Boltcoord

def Within (upTo : Timestamp) (event : Event) : Prop := upTo = 0 ∨ event.createdAt ≤ upTo

def authorFilter (kind : Kind) (author : PubKey) (tags : List (String × List String))
    (upTo : Timestamp) : Filter :=
  { kinds := some [kind], authors := some [author], tags := tags, upTo := upTo }

/-- The coordinates that are looked up when the events are saved. -/
def Asks (validKey : PubKey → Bool) (given : Set Event) (c : Coordinate) : Prop :=
  (∃ event ∈ given, Kind.isState event.kind = true ∧ coordinateOf event = c) ∨
    ∃ request ∈ given, c ∈ deletedCoordinates validKey request

/-- The bounds of these lookups and of their pages. -/
def Bound (given : Set Event) (upTo : Timestamp) : Prop :=
  upTo = 0 ∨ ∃ event ∈ given, event.createdAt = upTo

/-- Of the given events, the store finds the versions that NIP-01 says, and no page ends at the epoch. -/
structure Legible (env : Environment) (given : Set Event) : Prop where
  single : ∀ event ∈ given, Kind.isAddressable event.kind = true → SingleD event.tags
  versions : ∀ c, Asks env.validKey given c → ∀ tags, tags = [] ∨ tags = [("d", [c.d])] →
    ∀ upTo, Bound given upTo → ∀ event ∈ given,
      env.index (authorFilter c.kind c.author tags upTo) event =
        BoltBackend.finds (authorFilter c.kind c.author tags upTo) event
  dated : ∀ upTo, 0 ≤ upTo ∨ Bound given upTo → ∀ event ∈ given,
    env.index { upTo := upTo } event = true → Within upTo event
  later : ∀ event ∈ given, event.createdAt ≠ 0

/-- One version of each coordinate is held, all of them given. -/
structure Collapsed (given : Set Event) (s : Store) : Prop where
  known : ∀ event, s.Holds event → event ∈ given
  unique : ∀ first second, s.Holds first → s.Holds second → Kind.isState first.kind = true →
    coordinateOf first = coordinateOf second → first = second

theorem state_of_coordinate (same : coordinateOf version = coordinateOf other)
    (state : Kind.isState other.kind = true) : Kind.isState version.kind = true := by
  have kinds : version.kind = other.kind := congrArg Coordinate.kind same
  rw [kinds]
  exact state

variable {given : Set Event} {s : Store} {events : List Event}

theorem Collapsed.of_held (collapsed : Collapsed given s) (known : ∀ event, t.Holds event → event ∈ given)
    (old : ∀ event, t.Holds event → Kind.isState event.kind = true → s.Holds event) :
    Collapsed given t := by
  refine ⟨known, ?_⟩
  intro first second one two state same
  exact collapsed.unique first second (old first one state)
    (old second two (state_of_coordinate same.symm state)) state same

variable {event : Event} {kind : Kind} {author : PubKey} {upTo : Timestamp}

theorem Collapsed.of_replaced (collapsed : Collapsed given s) (member : event ∈ given)
    (holds : ∀ other, t.Holds other ↔ other = event ∨
      (s.Holds other ∧ coordinateOf other ≠ coordinateOf event)) : Collapsed given t := by
  constructor
  · intro other held
    rcases (holds other).mp held with same | ⟨stored, _⟩
    · rw [same]
      exact member
    · exact collapsed.known other stored
  · intro first second one two state same
    rcases (holds first).mp one with left | ⟨left, apart⟩
    · rcases (holds second).mp two with right | ⟨_, elsewhere⟩
      · exact left.trans right.symm
      · exact absurd (same.symm.trans (congrArg coordinateOf left)) elsewhere
    · rcases (holds second).mp two with right | ⟨right, _⟩
      · exact absurd (same.trans (congrArg coordinateOf right)) apart
      · exact collapsed.unique first second left right state same

theorem mem_take_of_unique (count : Nat)
    (unique : ∀ first ∈ events, ∀ second ∈ events, first = second) :
    event ∈ events.take (count + 1) ↔ event ∈ events := by
  constructor
  · exact List.mem_of_mem_take
  · intro member
    cases events with
    | nil => cases member
    | cons head =>
      rw [unique event member head List.mem_cons_self]
      exact List.mem_cons_self

/-- Reads that ask for one event, or for all, of a list of equal ones. -/
inductive OneOrAll : Option Nat → Prop
  | one : OneOrAll (some 1)
  | all : OneOrAll none

theorem mem_capped (wanted : OneOrAll limit)
    (unique : ∀ first ∈ events, ∀ second ∈ events, first = second) :
    event ∈ capped limit events ↔ event ∈ events := by
  cases wanted with
  | one => exact mem_take_of_unique 0 unique
  | all => rfl

theorem accepts_author :
    (authorFilter kind author tags upTo).accepts event = true ↔
      event.kind = kind ∧ event.pubKey = author ∧
        (tags.all fun (name, values) => Tags.containsAny event.tags name values) = true ∧
        Within upTo event := by
  simp only [Filter.accepts, Filter.matchesIgnoringTimestampConstraints, authorFilter,
    Option.all_none, Option.all_some, Bool.true_and, Bool.and_eq_true, bne_self_eq_false,
    Bool.false_and, Bool.not_false, List.contains_cons, List.contains_nil, Bool.or_false,
    beq_iff_eq, and_true, and_assoc, Bool.not_eq_true', Bool.and_eq_false_iff,
    bne_eq_false_iff_eq]
  exact and_congr_right fun _ => and_congr_right fun _ => and_congr_right fun _ =>
    or_congr_right (decide_eq_false_iff_not.trans not_lt)

theorem finds_author :
    BoltBackend.finds (authorFilter kind author [] upTo) event = true ↔
      event.kind = kind ∧ event.pubKey = author ∧ Within upTo event := by
  rw [BoltBackend.finds, Bool.and_eq_true, accepts_author]
  simp [authorFilter]

theorem finds_tagged (indexed : tagIndexable value = true) :
    BoltBackend.finds (authorFilter kind author [(name, [value])] upTo) event = true ↔
      event.kind = kind ∧ event.pubKey = author ∧
        Tags.containsAny event.tags name [value] = true ∧ Within upTo event := by
  have kept : [value].filter tagIndexed = [value] := List.filter_cons_of_pos indexed
  rw [BoltBackend.finds, Bool.and_eq_true, accepts_author]
  simp only [authorFilter, List.all_cons, List.all_nil, Bool.and_true, kept]
  tauto

theorem finds_unindexed (unindexed : tagIndexable value = false) :
    BoltBackend.finds (authorFilter kind author [(name, [value])] upTo) event = false := by
  have dropped : [value].filter tagIndexed = [] :=
    List.filter_cons_of_neg (by rw [Bool.not_eq_true]; exact unindexed)
  have nowhere : Tags.containsAny event.tags name [] = false := by
    rw [Tags.containsAny, List.any_eq_false]
    intro tag _
    split <;> simp
  rw [BoltBackend.finds]
  simp [authorFilter, dropped, nowhere]

/-! ### Pages -/

/-- A page of a read of all kinds, bounded no later than the read. -/
def PageUpTo (given : Set Event) (upTo : Timestamp) (page : Filter) : Prop :=
  ∃ bound, page = { upTo := bound } ∧ (0 ≤ bound ∨ Bound given bound) ∧
    ∀ event, Within bound event → Within upTo event

section Pages
variable {index : Index} {b : BoltBackend} {filter : Filter} {limit : Option Nat}

theorem found_nodup (index : Index) (b : BoltBackend) (filter : Filter) : (b.found index filter).Nodup := by
  rw [BoltBackend.found, (List.perm_insertionSort _ _).nodup_iff]
  exact (values_nodup b).filter _

theorem found_distinct : ((b.found index filter).map Event.id).Nodup :=
  (found_nodup index b filter).map_on fun _ one _ other same =>
    (BoltBackend.mem_found.mp one).1.eq (BoltBackend.mem_found.mp other).1 same

theorem found_ordered :
    (b.found index filter).Pairwise fun first second => second.createdAt ≤ first.createdAt := by
  have before (first second : Event) : standsBefore first second = true ↔
      toLex (second.createdAt, second.id) ≤ toLex (first.createdAt, first.id) := by
    simp only [standsBefore, Bool.or_eq_true, Bool.and_eq_true, decide_eq_true_eq, beq_iff_eq,
      Prod.Lex.toLex_le_toLex]
    exact or_congr_right (and_congr_left fun _ => eq_comm)
  have total : Std.Total fun first second : Event => standsBefore first second = true :=
    ⟨fun first second => by rw [before, before]; exact le_total _ _⟩
  have trans : IsTrans Event fun first second => standsBefore first second = true :=
    ⟨fun first second third one other => by
      rw [before] at one other ⊢
      exact other.trans one⟩
  refine (List.pairwise_insertionSort _ _).imp fun {first second} sorted => ?_
  rcases Prod.Lex.toLex_le_toLex.mp ((before first second).mp sorted) with earlier | same
  · exact earlier.le
  · exact same.1.le

theorem found_congr (tells : ∀ event, b.Holds event → index filter event = BoltBackend.finds filter event) :
    b.found index filter = b.found BoltBackend.finds filter := by
  rw [BoltBackend.found, BoltBackend.found]
  congr 1
  exact List.filter_congr fun event member => tells event (BoltBackend.mem_values.mp member)

theorem queryEvents_page (plain : filter.ids = none) (count : Nat) :
    b.queryEvents index filter count = (b.found index filter).take
      ((filter.getTheoreticalLimit.map (min · count)).getD count) := by
  rw [BoltBackend.queryEvents, plain]
  rfl

theorem pagedQuery_returns (index : Index) (s : Store) (plain : filter.ids = none) (limit : Int) :
    (Localstore.pagedQuery (s.coords.backend.queryEvents index)
      (2 * s.coords.backend.events.values.length + 2) queryPageSize filter limit).isSome = true := by
  have pages : ∀ page : Filter, page.ids = none → ∀ count,
      (s.coords.backend.queryEvents index page count).Subperm s.coords.backend.events.values ∧
        ∀ event ∈ s.coords.backend.queryEvents index page count, page.ids = none := by
    intro page plain count
    refine ⟨?_, fun _ _ => plain⟩
    rw [queryEvents_page plain, BoltBackend.found]
    have sorted := (List.perm_insertionSort (standsBefore · · = true)
      (s.coords.backend.events.values.filter (index page))).subperm
    exact ((List.take_sublist _ _).subperm.trans sorted).trans List.filter_sublist.subperm
  have asked : { filter with limit := 0 }.ids = none := plain
  apply readPages_returns pages asked List.nodup_nil (List.nil_subset _) (by decide)
  rw [List.length_nil]
  omega

theorem pagedQuery_first (whole : { filter with ids := none, limit := 0 } = filter) (wanted : OneOrAll limit)
    (enough : (s.coords.backend.queryEvents index filter queryPageSize).length < queryPageSize ∨
      limit = some 1) :
    s.pagedQuery index filter limit =
      capped limit (s.coords.backend.queryEvents index filter queryPageSize) := by
  have plain : filter.ids = none := by rw [← whole]
  have distinct : ((s.coords.backend.queryEvents index filter queryPageSize).map Event.id).Nodup := by
    rw [queryEvents_page plain]
    exact found_distinct.sublist ((List.take_sublist _ _).map _)
  have page : { filter with limit := 0 } = filter := by rw [← whole]
  unfold Store.pagedQuery Localstore.pagedQuery readPages
  rw [page]
  generalize s.coords.backend.queryEvents index filter queryPageSize = events at *
  have everything : fresh [] events = events := by simp [fresh]
  dsimp only
  cases wanted with
  | one =>
    have one : remainingOf ((some 1 : Option Nat).getD 0 : Nat) = some 1 := rfl
    rw [one, yieldPage_eq distinct (by simp), everything]
    cases events with
    | nil => simp [capped, queryPageSize]
    | cons => simp [capped]
  | all =>
    have all : remainingOf ((none : Option Nat).getD 0 : Nat) = none := rfl
    rw [all, @yieldPage_eq [] none _ distinct (by simp), everything]
    simp [capped, enough.resolve_right (by simp)]

end Pages

section Versions
variable {env : Environment} {given : Set Event} {s : Store} {kind : Kind} {author : PubKey}
  {upTo : Timestamp}

variable {limit : Nat}

theorem needsTagIndex_author :
    needsTagIndex { authorFilter kind author [] upTo with limit := limit } = false := rfl

theorem needsTagIndex_tagged (indexed : tagIndexable value = true) :
    needsTagIndex { authorFilter kind author [(name, [value])] upTo with limit := limit } = false := by
  simp [needsTagIndex, unindexedFilterTag, authorFilter, indexed]

variable {limit : Option Nat}

theorem scan_eq {tags : List (String × List String)} (wanted : OneOrAll limit)
    (indexed : ∀ limit, needsTagIndex { authorFilter kind author tags upTo with limit := limit } =
      false) :
    env.scan s (authorFilter kind author tags upTo) limit =
      s.pagedQuery env.index (authorFilter kind author tags upTo) limit := by
  unfold Environment.scan Environment.queryEvents
  cases wanted with
  | one =>
    have skip := indexed 1
    simp only [authorFilter] at skip ⊢
    simp [skip, Store.pagedQuery, Localstore.pagedQuery]
  | all =>
    have skip := indexed 0
    simp only [authorFilter] at skip ⊢
    simp [skip, Store.pagedQuery, Localstore.pagedQuery]

theorem pagedQuery_one {tags : List (String × List String)} (wanted : OneOrAll limit)
    (most : (authorFilter kind author tags upTo).getTheoreticalLimit = some 1) :
    s.pagedQuery index (authorFilter kind author tags upTo) limit =
      capped limit ((s.coords.backend.found index (authorFilter kind author tags upTo)).take 1) := by
  have page : s.coords.backend.queryEvents index (authorFilter kind author tags upTo) queryPageSize =
      (s.coords.backend.found index (authorFilter kind author tags upTo)).take 1 := by
    rw [queryEvents_page rfl, most]
    rfl
  rw [pagedQuery_first rfl wanted, page]
  left
  rw [page, List.length_take]
  exact lt_of_le_of_lt (min_le_left _ _) (by decide)

theorem theoreticalLimit_replaceable (replaceable : Kind.isReplaceable kind = true) :
    (authorFilter kind author tags upTo).getTheoreticalLimit = some 1 := by
  simp [authorFilter, Filter.getTheoreticalLimit, replaceable]

theorem theoreticalLimit_tagged {d : String} (addressable : Kind.isAddressable kind = true) :
    (authorFilter kind author [("d", [d])] upTo).getTheoreticalLimit = some 1 := by
  simp [authorFilter, Filter.getTheoreticalLimit, Filter.tagValues, addressable]

theorem theoreticalLimit_addressable (addressable : Kind.isAddressable kind = true) :
    (authorFilter kind author [] upTo).getTheoreticalLimit = none := by
  have plain : Kind.isReplaceable kind = false := Kind.addressable_not_replaceable addressable
  simp [authorFilter, Filter.getTheoreticalLimit, Filter.tagValues, plain]

variable (legible : Legible env given) (collapsed : Collapsed given s)
include legible collapsed

theorem Legible.found (asks : Asks env.validKey given c) (bound : Bound given upTo)
    (named : tags = [] ∨ tags = [("d", [c.d])]) :
    s.coords.backend.found env.index (authorFilter c.kind c.author tags upTo) =
      s.coords.backend.found BoltBackend.finds (authorFilter c.kind c.author tags upTo) :=
  found_congr fun event held => legible.versions c asks _ named upTo bound event (collapsed.known event held)

theorem Legible.readsPages (asks : Asks env.validKey given c)
    (addressable : Kind.isAddressable c.kind = true) :
    ReadsPages (s.coords.backend.queryEvents env.index) s.coords
      fun page => ∃ upTo, Bound given upTo ∧ page = authorFilter c.kind c.author [] upTo := by
  constructor
  · rintro _ ⟨upTo, bound, rfl⟩ count
    refine ⟨s.coords.backend.found env.index (authorFilter c.kind c.author [] upTo),
      ⟨found_nodup _ _ _, ?_, found_ordered⟩, ?_⟩
    · intro event
      rw [legible.found collapsed asks bound (.inl rfl), BoltBackend.mem_found, finds_author, accepts_author]
      simp
    · rw [queryEvents_page rfl, theoreticalLimit_addressable addressable]
      rfl
  · rintro _ ⟨upTo, _, rfl⟩ event held
    exact ⟨event.createdAt, .inr ⟨event, collapsed.known event held, rfl⟩, rfl⟩

theorem Legible.mem_pages (asks : Asks env.validKey given c) (bound : Bound given upTo)
    (addressable : Kind.isAddressable c.kind = true) :
    event ∈ s.pagedQuery env.index (authorFilter c.kind c.author [] upTo) none ↔
      event ∈ s.coords.backend.found BoltBackend.finds (authorFilter c.kind c.author [] upTo) := by
  have bounded : ¬ Overruns s.coords (authorFilter c.kind c.author [] upTo) :=
    fun ⟨_, ⟨event, held, _, epoch⟩, _⟩ => legible.later event (collapsed.known event held) epoch
  have enough : s.coords.backend.events.values.length +
      (s.coords.backend.events.values.length + 1 - queryPageSize) <
        2 * s.coords.backend.events.values.length + 2 := by omega
  obtain ⟨events, newest, read⟩ : ∃ events, _ ∧ pagedQuery _ _ _ _ 0 = _ := pagedQuery_complete
    (legible.readsPages collapsed asks addressable) bounded (by decide) ⟨upTo, bound, rfl⟩ enough
  have answer : s.pagedQuery env.index (authorFilter c.kind c.author [] upTo) none = events := by
    show (pagedQuery _ _ _ _ 0).getD [] = events
    rw [read]
    rfl
  rw [answer, newest.members, BoltBackend.mem_found, finds_author, accepts_author]
  simp

theorem Legible.mem_upTo (late : 0 ≤ upTo) (member : event ∈ env.queryEvents s { upTo := upTo }) :
    s.Holds event ∧ Within upTo event := by
  have pages : ∀ page, PageUpTo given upTo page → ∀ count, ∀ event ∈
      s.coords.backend.queryEvents env.index page count, (s.Holds event ∧ Within upTo event) ∧
        PageUpTo given upTo { page with upTo := event.createdAt } := by
    rintro _ ⟨bound, rfl, bounded, tighter⟩ count event member
    rw [queryEvents_page rfl] at member
    obtain ⟨held, found⟩ := BoltBackend.mem_found.mp (List.mem_of_mem_take member)
    have known := collapsed.known event held
    have within := tighter event (legible.dated bound bounded event known found)
    refine ⟨⟨held, within⟩, event.createdAt, rfl, .inr (.inr ⟨event, known, rfl⟩), ?_⟩
    -- The page does not end at the epoch, so its bound is one.
    intro other before
    exact within.imp_right (before.resolve_left (legible.later event known)).trans
  change event ∈ (Localstore.pagedQuery _ _ _ _ 0).getD [] at member
  obtain ⟨events, read⟩ := Option.isSome_iff_exists.mp
    (pagedQuery_returns env.index s rfl 0 : (Localstore.pagedQuery _ _ _ { upTo := upTo } 0).isSome = true)
  rw [read] at member
  exact readPages_forall pages ⟨upTo, rfl, .inl late, fun _ within => within⟩ read event member

omit legible collapsed

variable {c : Coordinate} {event : Event}

theorem coordinateOf_addressable (addressable : Kind.isAddressable c.kind = true) :
    coordinateOf event = c ↔ event.kind = c.kind ∧ event.pubKey = c.author ∧
      Tags.getD event.tags = c.d := by
  rw [coordinateOf_eq]
  apply and_congr_right
  intro same
  rw [same, if_pos addressable]

theorem coordinateOf_replaceable (proper : c.Proper) (plain : Kind.isAddressable c.kind = false) :
    coordinateOf event = c ↔ event.kind = c.kind ∧ event.pubKey = c.author := by
  rw [coordinateOf_eq]
  apply and_congr_right
  intro same
  rw [same, plain, proper.ignored plain]
  simp

theorem found_tagged (legible : Legible env given) (collapsed : Collapsed given s)
    (addressable : Kind.isAddressable c.kind = true) (indexed : tagIndexable c.d = true) :
    event ∈ s.coords.backend.found BoltBackend.finds (authorFilter c.kind c.author [("d", [c.d])] upTo) ↔
      s.Holds event ∧ coordinateOf event = c ∧ Within upTo event := by
  rw [BoltBackend.mem_found, finds_tagged indexed, coordinateOf_addressable addressable]
  have present : c.d ≠ "" := by
    intro empty
    rw [empty] at indexed
    cases indexed
  constructor
  · intro ⟨held, kind, author, tagged, within⟩
    have single := legible.single event (collapsed.known event held) (by rw [kind]; exact addressable)
    exact ⟨held, ⟨kind, author, single c.d tagged⟩, within⟩
  · intro ⟨held, ⟨kind, author, d⟩, within⟩
    refine ⟨held, kind, author, ?_, within⟩
    have tagged := containsAny_getD (by rw [d]; exact present : Tags.getD event.tags ≠ "")
    rw [d] at tagged
    exact tagged

theorem found_replaceable (proper : c.Proper) (plain : Kind.isAddressable c.kind = false) :
    event ∈ s.coords.backend.found BoltBackend.finds (authorFilter c.kind c.author [] upTo) ↔
      s.Holds event ∧ coordinateOf event = c ∧ Within upTo event := by
  rw [BoltBackend.mem_found, finds_author, coordinateOf_replaceable proper plain, and_assoc]
  rfl

theorem found_compared (addressable : Kind.isAddressable c.kind = true) :
    event ∈ s.coords.backend.found BoltBackend.finds (authorFilter c.kind c.author [] upTo) ∧
        (Tags.getD event.tags == c.d) = true ↔
      s.Holds event ∧ coordinateOf event = c ∧ Within upTo event := by
  rw [BoltBackend.mem_found, finds_author, coordinateOf_addressable addressable, beq_iff_eq]
  constructor
  · intro ⟨⟨held, kind, author, within⟩, d⟩
    exact ⟨held, ⟨kind, author, d⟩, within⟩
  · intro ⟨held, ⟨kind, author, d⟩, within⟩
    exact ⟨⟨held, kind, author, within⟩, d⟩

theorem versions_unique (collapsed : Collapsed given s) (proper : c.Proper)
    (versions : ∀ event, event ∈ events ↔
      s.Holds event ∧ coordinateOf event = c ∧ Within upTo event) :
    ∀ first ∈ events, ∀ second ∈ events, first = second := by
  intro first firstMember second secondMember
  obtain ⟨firstHeld, firstPlaced, _⟩ := (versions first).mp firstMember
  obtain ⟨secondHeld, secondPlaced, _⟩ := (versions second).mp secondMember
  apply collapsed.unique first second firstHeld secondHeld
  · rw [(coordinateOf_eq.mp firstPlaced).1]
    exact proper.state
  · exact firstPlaced.trans secondPlaced.symm

/-- With one version to a coordinate, `versions` reads it if it is in time. -/
theorem mem_versions (legible : Legible env given) (collapsed : Collapsed given s)
    (asks : Asks env.validKey given c) (bound : Bound given upTo) (proper : c.Proper)
    (wanted : OneOrAll limit) :
    event ∈ versions (env.scan s) c upTo limit ↔
      s.Holds event ∧ coordinateOf event = c ∧ Within upTo event := by
  have one : ∀ {events : List Event}, (∀ event, event ∈ events ↔
      s.Holds event ∧ coordinateOf event = c ∧ Within upTo event) →
      ∀ event, event ∈ events.take 1 ↔
        s.Holds event ∧ coordinateOf event = c ∧ Within upTo event := by
    intro events versions event
    rw [mem_take_of_unique 0 (versions_unique collapsed proper versions), versions]
  have wantedOnly : ∀ {events : List Event}, (∀ event, event ∈ events ↔
      s.Holds event ∧ coordinateOf event = c ∧ Within upTo event) →
      (event ∈ capped limit events ↔
        s.Holds event ∧ coordinateOf event = c ∧ Within upTo event) := by
    intro events versions
    rw [mem_capped wanted (versions_unique collapsed proper versions), versions]
  unfold versions
  by_cases addressable : Kind.isAddressable c.kind = true
  · by_cases indexed : tagIndexable c.d = true
    · have fast : c.dIndexed = true := by simp [Coordinate.dIndexed, indexed]
      rw [if_pos fast, if_pos addressable]
      show event ∈ env.scan s (authorFilter c.kind c.author [("d", [c.d])] upTo) limit ↔ _
      rw [scan_eq wanted fun _ => needsTagIndex_tagged indexed,
        pagedQuery_one wanted (theoreticalLimit_tagged addressable),
        legible.found collapsed asks bound (.inr rfl)]
      exact wantedOnly (one fun _ => found_tagged legible collapsed addressable indexed)
    · have slow : ¬ c.dIndexed = true := by simp [Coordinate.dIndexed, addressable, indexed]
      rw [if_neg slow]
      show event ∈ capped limit ((env.scan s (authorFilter c.kind c.author [] upTo) none).filter _) ↔ _
      rw [scan_eq .all fun _ => needsTagIndex_author]
      refine wantedOnly fun other => ?_
      rw [List.mem_filter, legible.mem_pages collapsed asks bound addressable, found_compared addressable]
  · have plain := Bool.not_eq_true _ ▸ addressable
    have fast : c.dIndexed = true := by simp [Coordinate.dIndexed, plain]
    have replaceable : Kind.isReplaceable c.kind = true := by
      simpa [Kind.isState, plain] using proper.state
    rw [if_pos fast, if_neg addressable]
    show event ∈ env.scan s (authorFilter c.kind c.author [] upTo) limit ↔ _
    rw [scan_eq wanted fun _ => needsTagIndex_author,
      pagedQuery_one wanted (theoreticalLimit_replaceable replaceable),
      legible.found collapsed asks bound (.inl rfl)]
    exact wantedOnly (one fun _ => found_replaceable proper plain)

end Versions

end Bahia.Localstore
