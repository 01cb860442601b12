import Bahia.Foundation.Latest
import Bahia.Lifecycle.Arrivals

/-! When the live versions are the same for every order of arrival: the current version of
each coordinate among those no request deletes. -/

namespace Bahia.Nostrutil
open Foundation Nostr List

section Converge
variable (validKey : PubKey → Bool)

def DeletesID (request target : Event) : Prop :=
  ∃ deletion, parseDeletion validKey request = some deletion ∧
    deletion.author = target.pubKey ∧ target.id ∈ deletion.ids

def DeletesCoordinate (request target : Event) : Prop :=
  ∃ deletion address, parseDeletion validKey request = some deletion ∧
    addressOf target = some address ∧ address ∈ deletion.addresses ∧
    target.createdAt ≤ deletion.createdAt

def Deleted (events : Set Event) (target : Event) : Prop :=
  ∃ request ∈ events, DeletesID validKey request target ∨ DeletesCoordinate validKey request target

/-- Deleted by a request the lifecycle remembers: by id, or after the epoch. -/
def Barred (events : Set Event) (target : Event) : Prop :=
  ∃ request ∈ events, DeletesID validKey request target ∨
    (DeletesCoordinate validKey request target ∧ 0 < request.createdAt)

def Survives (events : Set Event) (address : Address) (event : Event) : Prop :=
  event ∈ events ∧ addressOf event = some address ∧ ¬ Deleted validKey events event

/-- The NIP-01 latest of its coordinate among the versions no request deletes. -/
def Current (events : Set Event) (event : Event) : Prop :=
  ∃ address, Latest Event.rank (Survives validKey events address) event

/-- Every deleted version is older than one that survives on its coordinate, or nothing
survives there and the lifecycle remembers the deletion. -/
def Settles (events : Set Event) : Prop :=
  ∀ event ∈ events, ∀ address, addressOf event = some address → Deleted validKey events event →
    (∃ survivor, Survives validKey events address survivor ∧ event.rank < survivor.rank) ∨
      ((∀ other, ¬ Survives validKey events address other) ∧ Barred validKey events event)

def LiveState (l : Lifecycle) (entry : Entry) : Prop :=
  l.live.get entry.id = some entry ∧ entry.address.isSome = true

variable {validKey}

theorem parsed_createdAt (parsed : parseDeletion validKey request = some deletion) :
    deletion.createdAt = request.createdAt := by
  unfold parseDeletion at parsed
  split at parsed
  · cases parsed
    rfl
  · cases parsed

variable {event : Event} {events : Finset Event} {l : Lifecycle} {address : Address}

theorem deletes_of : (Seen.of validKey events).Deletes target ↔ Deleted validKey events target := by
  constructor
  · intro deletes
    rcases deletes with ⟨request, member, deletion, parsed, author, named⟩ |
      ⟨address, time, located, ⟨request, member, deletion, parsed, made, named⟩, before⟩
    · exact ⟨request, member, .inl ⟨deletion, parsed, author.symm, named⟩⟩
    · exact ⟨request, member, .inr ⟨deletion, address, parsed, located, named, made ▸ before⟩⟩
  · intro ⟨request, member, deletes⟩
    rcases deletes with ⟨deletion, parsed, author, named⟩ |
      ⟨deletion, address, parsed, located, named, before⟩
    · exact .inl ⟨request, member, deletion, parsed, author.symm, named⟩
    · exact .inr ⟨address, deletion.createdAt, located,
        ⟨request, member, deletion, parsed, rfl, named⟩, before⟩

theorem bars_of {events : Set Event} :
    (Seen.of validKey events).Bars target ↔ Barred validKey events target := by
  constructor
  · intro bars
    rcases bars with ⟨request, member, deletion, parsed, author, named⟩ |
      ⟨address, time, located, ⟨request, member, deletion, parsed, made, named⟩, before, positive⟩
    · exact ⟨request, member, .inl ⟨deletion, parsed, author.symm, named⟩⟩
    · refine ⟨request, member, .inr ⟨⟨deletion, address, parsed, located, named, made ▸ before⟩, ?_⟩⟩
      rw [← parsed_createdAt parsed, ← made]
      exact positive
  · intro ⟨request, member, bars⟩
    rcases bars with ⟨deletion, parsed, author, named⟩ |
      ⟨⟨deletion, address, parsed, located, named, before⟩, positive⟩
    · exact .inl ⟨request, member, deletion, parsed, author.symm, named⟩
    · exact .inr ⟨address, deletion.createdAt, located,
        ⟨request, member, deletion, parsed, rfl, named⟩, before, parsed_createdAt parsed ▸ positive⟩

theorem deleted_of_barred (barred : Barred validKey events target) :
    Deleted validKey events target := by
  obtain ⟨request, member, bars⟩ := barred
  rcases bars with byID | ⟨byCoordinate, _⟩
  · exact ⟨request, member, .inl byID⟩
  · exact ⟨request, member, .inr byCoordinate⟩

section Final

theorem survivor_le_head (tracks : Tracks (Seen.of validKey events) l)
    (survives : Survives validKey events address survivor) :
    ∃ head event, l.heads.get address = some head ∧
      HeadOf (Seen.of validKey events) l address head event ∧ survivor.rank ≤ event.rank := by
  obtain ⟨member, located, spared⟩ := survives
  have given : survivor ∈ (Seen.of validKey events).versions := ⟨member, by rw [located]; rfl⟩
  rcases tracks.covered survivor given with bars | floors
  · exact absurd (deleted_of_barred (bars_of.mp bars)) spared
  obtain ⟨head, present, below⟩ := floors address located
  obtain ⟨event, stands⟩ := tracks.heads address head present
  refine ⟨head, event, present, stands, ?_⟩
  rw [stands.version] at below
  rcases below with equal | above
  · exact (versionOf_eq.mp equal).ge
  · exact (versionOf_supersedes.mp above).le

theorem live_current (settles : Settles validKey events)
    (tracks : Tracks (Seen.of validKey events) l) (live : l.live.get entry.id = some entry) :
    ∃ event, Current validKey events event ∧ entry = entryOf event := by
  obtain ⟨address, head, event, present, alive, stands, _, same⟩ := tracks.entry_of_live live
  have highest : ∀ other, Survives validKey events address other → other.rank ≤ event.rank := by
    intro other survives
    obtain ⟨top, version, there, also, bound⟩ := survivor_le_head tracks survives
    rw [present] at there
    cases there
    have equal := tracks.distinct version also.given event stands.given
      (also.id.symm.trans stands.id)
    exact equal ▸ bound
  refine ⟨event, ⟨address, ⟨stands.given.1, stands.located, ?_⟩, highest⟩, same⟩
  intro deleted
  rcases settles event stands.given.1 address stands.located deleted with
    ⟨survivor, survives, above⟩ | ⟨_, barred⟩
  · exact absurd above (not_lt.mpr (highest survivor survives))
  · exact (stands.live alive).2 (bars_of.mpr barred)

theorem current_live (plain : Plain events) (settles : Settles validKey events)
    (tracks : Tracks (Seen.of validKey events) l) (current : Current validKey events event) :
    l.live.get event.id = some (entryOf event) := by
  obtain ⟨address, survives, highest⟩ := current
  obtain ⟨head, version, present, stands, bound⟩ := survivor_le_head tracks survives
  have spared : ¬ Deleted validKey events version := by
    intro deleted
    rcases settles version stands.given.1 address stands.located deleted with
      ⟨survivor, alive, above⟩ | ⟨nobody, _⟩
    · exact absurd (bound.trans_lt above) (not_lt.mpr (highest survivor alive))
    · exact nobody event survives
  have equal : version.rank = event.rank :=
    le_antisymm (highest version ⟨stands.given.1, stands.located, spared⟩) bound
  have same := plain.distinct version stands.given.1 event survives.1 (rank_eq_iff.mp equal).2
  have alive : head.live = true := by
    cases gone : head.live with
    | true => rfl
    | false => exact absurd (deletes_of.mp (stands.gone gone)) spared
  rw [← same]
  exact (stands.live alive).1

end Final

/-- Arrivals that bring exactly the events of the set. -/
def Brings (arrivals : List (Event × Timestamp)) (events : Finset Event) : Prop :=
  ∀ event, event ∈ arrivals.map Prod.fst ↔ event ∈ events

variable (validKey) in
theorem brings_tracks (plain : Plain (events : Set Event))
    {arrivals : List (Event × Timestamp)} (brings : Brings arrivals events) :
    Tracks (Seen.of validKey (events : Set Event)) (Lifecycle.new.observeAll validKey arrivals) := by
  have initial : Tracks (Seen.of validKey ∅) Lifecycle.new := by
    have same : Seen.of validKey ∅ = .empty := by
      apply Seen.ext <;> ext <;> simp [Seen.of, Seen.empty]
    rw [same]
    exact tracks_new
  have tracks := observeAll_tracks validKey plain initial (Set.empty_subset _)
    (fun arrival member => (brings arrival.1).mp (mem_map_of_mem member))
  have same : (∅ : Set Event) ∪ {event | event ∈ arrivals.map Prod.fst} = (events : Set Event) := by
    ext event
    simp only [Set.empty_union, Set.mem_ofPred_eq, Finset.mem_coe]
    exact brings event
  rw [same] at tracks
  exact tracks

/-! Two orders show what the condition excludes: a deleted version that arrives first, and
requests that arrive before everything else. -/

theorem floors_observeAll (floors : l.Floors event)
    (arrivals : List (Event × Timestamp)) : (l.observeAll validKey arrivals).Floors event := by
  induction arrivals generalizing l with
  | nil => exact floors
  | cons arrival rest ih =>
    exact ih (Lifecycle.floors_observed (l.observe_observed validKey arrival.1 arrival.2) floors)

theorem first_floors (located : addressOf event = some address)
    (unexpiring : expiresAt event = 0) (arrivals : List (Event × Timestamp)) :
    (Lifecycle.new.observeAll validKey ((event, 0) :: arrivals)).Floors event := by
  suffices first : (Lifecycle.new.observeAll validKey [(event, 0)]).Floors event from
    floors_observeAll first arrivals
  have plain : Plain (({event} : Finset Event) : Set Event) := by
    rw [Finset.coe_singleton]
    refine ⟨?_, ?_⟩
    · intro first firstMember second secondMember _
      exact firstMember.trans secondMember.symm
    · intro other member
      rw [show other = event from member]
      exact unexpiring
  have brings : Brings [(event, 0)] {event} := by simp [Brings]
  have tracks : Tracks (Seen.of validKey (({event} : Finset Event) : Set Event))
      (Lifecycle.new.observeAll validKey [(event, 0)]) := brings_tracks validKey plain brings
  rw [Finset.coe_singleton] at tracks
  rcases tracks.covered event ⟨rfl, by rw [located]; rfl⟩ with bars | floors
  · obtain ⟨request, member, bars⟩ := bars_of.mp bars
    have parsed : ∃ deletion, parseDeletion validKey event = some deletion := by
      rw [show request = event from member] at bars
      rcases bars with ⟨deletion, parsed, _⟩ | ⟨⟨deletion, _, parsed, _⟩, _⟩
      · exact ⟨deletion, parsed⟩
      · exact ⟨deletion, parsed⟩
    obtain ⟨deletion, parsed⟩ := parsed
    rw [parseDeletion_unplaced validKey parsed] at located
    cases located
  · exact floors

def AllLive (l : Lifecycle) : Prop :=
  ∀ address head, l.heads.get address = some head → head.live = true

theorem observe_allLive (allLive : AllLive l)
    (version : parseDeletion validKey event = none) (now : Timestamp) :
    AllLive (l.observe validKey event now).1 := by
  have accepted : ∀ (base : Lifecycle) address, base.heads = l.heads →
      AllLive (base.accept event address) := by
    intro base address same place head found
    rcases Bucket.get_put_cases found with ⟨_, equal⟩ | ⟨_, before⟩
    · rw [← equal]
    · exact allLive place head (same ▸ before)
  unfold Lifecycle.observe
  rw [version]
  split
  · exact allLive
  dsimp only
  split
  · exact allLive
  split
  · unfold Lifecycle.observeState
    split
    · exact allLive
    split
    · exact accepted _ _ rfl
    split
    · exact allLive
    split
    · exact allLive
    split
    · exact accepted _ _ rfl
    · exact accepted _ _ rfl
  · split
    · split
      · exact allLive
      · exact allLive
    · exact allLive

theorem observeAll_allLive (allLive : AllLive l)
    (versions : ∀ arrival ∈ arrivals, parseDeletion validKey arrival.1 = none) :
    AllLive (l.observeAll validKey arrivals) := by
  induction arrivals generalizing l with
  | nil => exact allLive
  | cons arrival rest ih =>
    apply ih
    · exact observe_allLive allLive (versions arrival mem_cons_self) arrival.2
    · intro other member
      exact versions other (mem_cons_of_mem _ member)

variable (validKey) in
noncomputable def requestsFirst (events : Finset Event) : List (Event × Timestamp) :=
  (events.toList.filter fun event => (parseDeletion validKey event).isSome).map (·, 0) ++
    (events.toList.filter fun event => (parseDeletion validKey event).isNone).map (·, 0)

variable (validKey) in
theorem requestsFirst_brings (events : Finset Event) :
    Brings (requestsFirst validKey events) events := by
  intro event
  simp only [requestsFirst, map_append, map_map, mem_append, mem_map,
    mem_filter, Finset.mem_toList, Function.comp_apply]
  constructor
  · intro member
    rcases member with ⟨other, ⟨inside, _⟩, same⟩ | ⟨other, ⟨inside, _⟩, same⟩
    · exact same ▸ inside
    · exact same ▸ inside
  · intro inside
    cases parsed : parseDeletion validKey event with
    | some => exact .inl ⟨event, ⟨inside, by rw [parsed]; rfl⟩, rfl⟩
    | none => exact .inr ⟨event, ⟨inside, by rw [parsed]; rfl⟩, rfl⟩

theorem requestsFirst_allLive (plain : Plain (events : Set Event)) :
    AllLive (Lifecycle.new.observeAll validKey (requestsFirst validKey events)) := by
  unfold requestsFirst
  rw [Lifecycle.observeAll, foldl_append]
  apply observeAll_allLive
  · -- Requests alone leave no head at all.
    let requests := events.filter fun event => (parseDeletion validKey event).isSome = true
    have within : Plain (requests : Set Event) := by
      refine ⟨?_, ?_⟩
      · intro first firstMember second secondMember
        exact plain.distinct first (Finset.mem_filter.mp firstMember).1 second
          (Finset.mem_filter.mp secondMember).1
      · intro event member
        exact plain.unexpiring event (Finset.mem_filter.mp member).1
    have brings : Brings ((events.toList.filter fun event =>
        (parseDeletion validKey event).isSome).map (·, 0)) requests := by
      intro event
      simp [requests]
    intro address head found
    obtain ⟨event, stands⟩ := (brings_tracks validKey within brings).heads address head found
    have parsed := (Finset.mem_filter.mp stands.given.1).2
    obtain ⟨deletion, parsed⟩ := Option.isSome_iff_exists.mp parsed
    have located := stands.located
    rw [parseDeletion_unplaced validKey parsed] at located
    cases located
  · intro arrival member
    obtain ⟨event, inside, same⟩ := mem_map.mp member
    rw [← same]
    exact Option.isNone_iff_eq_none.mp (mem_filter.mp inside).2

variable (validKey) in
def Converges (events : Finset Event) : Prop :=
  ∀ arrivals, Brings arrivals events → ∀ entry,
    LiveState (Lifecycle.new.observeAll validKey arrivals) entry ↔
      ∃ event, Current validKey (events : Set Event) event ∧ entry = entryOf event

theorem converges_of_settles (plain : Plain (events : Set Event))
    (settles : Settles validKey (events : Set Event)) : Converges validKey events := by
  intro arrivals brings entry
  have tracks := brings_tracks validKey plain brings
  constructor
  · intro live
    exact live_current settles tracks live.1
  · intro ⟨event, current, same⟩
    subst same
    refine ⟨current_live plain settles tracks current, ?_⟩
    obtain ⟨address, survives, _⟩ := current
    rw [show (entryOf event).address = some address from survives.2.1]
    rfl

section
variable (plain : Plain (events : Set Event)) (converges : Converges validKey events)
  (member : event ∈ events) (located : addressOf event = some address)
include plain converges member located

/-- A version that survives nowhere has the last word when it arrives first. -/
theorem superseded_of_converges (deleted : Deleted validKey (events : Set Event) event)
    (survives : Survives validKey (events : Set Event) address survivor) :
    ∃ survivor, Survives validKey (events : Set Event) address survivor ∧
      event.rank < survivor.rank := by
  obtain ⟨latest, alive, highest⟩ := exists_latest Event.rank events
    (fun other survives => survives.1) ⟨survivor, survives⟩
  refine ⟨latest, alive, ?_⟩
  have brings : Brings ((event, 0) :: events.toList.map (·, 0)) events := by
    intro other
    simp only [map_cons, map_map, mem_cons, mem_map, Finset.mem_toList,
      Function.comp_apply, exists_eq_right]
    constructor
    · intro either
      rcases either with same | inside
      · exact same ▸ member
      · exact inside
    · exact .inr
  have tracks := brings_tracks validKey plain brings
  have live := (converges _ brings (entryOf latest)).mpr ⟨latest, ⟨address, alive, highest⟩, rfl⟩
  obtain ⟨head, present, sameID, _⟩ := tracks.head_of_entry live.1 alive.2.1
  obtain ⟨version, stands⟩ := tracks.heads address head present
  have equal := plain.distinct version stands.given.1 latest alive.1 (stands.id.symm.trans sameID)
  obtain ⟨top, there, below⟩ := first_floors located (plain.unexpiring event member) _ address located
  rw [present] at there
  cases there
  rw [stands.version, equal] at below
  rcases below with same | above
  · have first := plain.distinct latest alive.1 event member (rank_eq_iff.mp (versionOf_eq.mp same)).2
    exact absurd (first ▸ deleted) alive.2.2
  · exact versionOf_supersedes.mp above

/-- A deletion the lifecycle forgets lets its version in after the request. -/
theorem barred_of_converges
    (nobody : ∀ other, ¬ Survives validKey (events : Set Event) address other) :
    Barred validKey (events : Set Event) event := by
  have brings := requestsFirst_brings validKey events
  have tracks := brings_tracks validKey plain brings
  rcases tracks.covered event ⟨member, by rw [located]; rfl⟩ with bars | floors
  · exact bars_of.mp bars
  obtain ⟨head, present, _⟩ := floors address located
  obtain ⟨version, stands⟩ := tracks.heads address head present
  have live := requestsFirst_allLive plain address head present
  have stored : LiveState _ (entryOf version) :=
    ⟨(stands.live live).1, by rw [show (entryOf version).address = _ from stands.located]; rfl⟩
  obtain ⟨current, ⟨place, survives, _⟩, same⟩ := (converges _ brings _).mp stored
  have there : addressOf version = addressOf current := congrArg Entry.address same
  rw [stands.located, survives.2.1] at there
  cases there
  exact absurd survives (nobody current)

end

/-- Every order of arrival ends with the current versions live exactly when every deleted
version is older than a survivor of its coordinate, or nothing survives there and the
lifecycle remembers its deletion. -/
theorem converges_iff_settles (validKey : PubKey → Bool) (events : Finset Event)
    (plain : Plain (events : Set Event)) :
    Converges validKey events ↔ Settles validKey (events : Set Event) := by
  constructor
  · intro converges event member address located deleted
    by_cases somebody : ∃ survivor, Survives validKey (events : Set Event) address survivor
    · obtain ⟨survivor, survives⟩ := somebody
      exact .inl (superseded_of_converges plain converges member located deleted survives)
    · have nobody := not_exists.mp somebody
      exact .inr ⟨nobody, barred_of_converges plain converges member located nobody⟩
  · exact converges_of_settles plain

end Converge

def versionDeletion (id : Byte) (createdAt : Timestamp) (target : Event) : Event :=
  { sampleEvent (FixedBytes.ofByte 31 id) createdAt kindDeletion [["e", ID.hex target.id]] with
    pubKey := target.pubKey }

def withDeletion (target : Event) : Finset Event :=
  {stateVersion 1 10, stateVersion 2 20, versionDeletion 3 30 target}

theorem withDeletion_plain (target : Event) : Plain (withDeletion target : Set Event) := by
  have members : ∀ event ∈ (withDeletion target : Set Event), event = stateVersion 1 10 ∨
      event = stateVersion 2 20 ∨ event = versionDeletion 3 30 target := by
    simp [withDeletion]
  refine ⟨?_, ?_⟩
  · intro first firstMember second secondMember same
    rcases members first firstMember with rfl | rfl | rfl <;>
      rcases members second secondMember with rfl | rfl | rfl <;>
      first | rfl | simp [stateVersion, versionDeletion] at same
  · intro event member
    rcases members event member with rfl | rfl | rfl <;> rfl

theorem withDeletion_spares (read : idFromHex (toLower (trimSpace (ID.hex target.id))) = some named)
    (other : event.id ≠ named) : ¬ Deleted (fun _ => true) (withDeletion target) event := by
  have parsed : parseDeletion (fun _ => true) (versionDeletion 3 30 target) =
      some ⟨target.pubKey, 30, [named], []⟩ := by
    simp [parseDeletion, versionDeletion, deletedID, deletedAddress, read]
  intro ⟨request, member, deletes⟩
  have given : ∃ deletion, parseDeletion (fun _ => true) request = some deletion ∧
      (event.id ∈ deletion.ids ∨ ∃ address, address ∈ deletion.addresses) := by
    rcases deletes with ⟨deletion, found, _, named⟩ | ⟨deletion, address, found, _, named, _⟩
    · exact ⟨deletion, found, .inl named⟩
    · exact ⟨deletion, found, .inr ⟨address, named⟩⟩
  obtain ⟨deletion, found, names⟩ := given
  simp only [withDeletion, Finset.coe_insert, Finset.coe_singleton, Set.mem_insert_iff,
    Set.mem_singleton_iff] at member
  rcases member with rfl | rfl | rfl
  · cases found
  · cases found
  · rw [parsed] at found
    cases found
    simp [other] at names

theorem converges_iff_settles_superseded :
    Plain (withDeletion (stateVersion 1 10) : Set Event) ∧
      Converges (fun _ => true) (withDeletion (stateVersion 1 10)) := by
  refine ⟨withDeletion_plain _, (converges_iff_settles _ _ (withDeletion_plain _)).mpr ?_⟩
  have read : idFromHex (toLower (trimSpace (ID.hex (stateVersion 1 10).id))) =
      some (stateVersion 1 10).id := by decide +kernel
  have spared : ¬ Deleted (fun _ => true) (withDeletion (stateVersion 1 10)) (stateVersion 2 20) :=
    withDeletion_spares read (by simp [stateVersion])
  intro event member address located deleted
  simp only [withDeletion, Finset.coe_insert, Finset.coe_singleton, Set.mem_insert_iff,
    Set.mem_singleton_iff] at member
  rcases member with rfl | rfl | rfl
  · exact .inl ⟨stateVersion 2 20, ⟨by simp [withDeletion], located, spared⟩,
      isOlder_iff_rank.mp rfl⟩
  · exact absurd deleted spared
  · cases located

/-- A version deleted by id while it is the latest: what is left depends on whether the
request came last or first. -/
theorem deletion_order_changes_live :
    ¬ ∀ (validKey : PubKey → Bool) (events : Finset Event),
      Plain (events : Set Event) → Converges validKey events := by
  intro claimed
  have converges := claimed (fun _ => true) _ (withDeletion_plain (stateVersion 2 20))
  have last := converges
    [(stateVersion 1 10, 0), (stateVersion 2 20, 0), (versionDeletion 3 30 (stateVersion 2 20), 0)]
    (by simp [Brings, withDeletion]) (entryOf (stateVersion 1 10))
  have first := converges
    [(versionDeletion 3 30 (stateVersion 2 20), 0), (stateVersion 1 10, 0), (stateVersion 2 20, 0)]
    (by intro event; simp [withDeletion]; tauto) (entryOf (stateVersion 1 10))
  have live := last.mpr (first.mp ⟨rfl, rfl⟩)
  exact absurd live.1 (by decide)

end Bahia.Nostrutil
