import Bahia.Foundation.Latest
import Bahia.LocalStore.Replica
import Bahia.LocalStore.Undelivered

/-! Whether saving the same events in any order leaves the same events stored. -/

namespace Bahia.Localstore
open Foundation Nostr Boltdb Boltcoord List

/-- A request of the author deletes the event: by id, or by coordinate at or after its
`created_at`. -/
def DeletedBy (env : Environment) (request event : Event) : Prop :=
  Store.Names request event ∨
    (coordinateOf event ∈ deletedCoordinates env.validKey request ∧
      event.createdAt ≤ request.createdAt)

def Newest (events : Set Event) (event : Event) : Prop :=
  ∀ other ∈ events, coordinateOf other = coordinateOf event → other.rank ≤ event.rank

/-- What a store that was given the events should hold. -/
structure Kept (env : Environment) (events : Set Event) (event : Event) : Prop where
  given : event ∈ events
  lasting : Kind.isEphemeral event.kind = false
  undeleted : ∀ request ∈ requestsOf events, ¬ DeletedBy env request event
  newest : Kind.isState event.kind = true → Newest events event

def Converges (env : Environment) (events : Set Event) : Prop :=
  ∀ arrivals : List Event, (∀ event, event ∈ arrivals ↔ event ∈ events) →
    ∀ event, (saveAll env .empty arrivals).Holds event ↔ Kept env events event

/-- The newest version of a coordinate, when no request deletes it, is neither barred by a row
of the index nor reached by a request's read; when one does, some request does both to each
version. -/
structure Settles (env : Environment) (events : Set Event) : Prop where
  spared : ∀ version ∈ events, Kind.isState version.kind = true → Newest events version →
    (∀ request ∈ requestsOf events, ¬ DeletedBy env request version) →
      ∀ request ∈ requestsOf events, ¬ Bars env request version ∧ ¬ Covers env request version
  deleted : ∀ newest ∈ events, Kind.isState newest.kind = true → Newest events newest →
    (∃ request ∈ requestsOf events, DeletedBy env request newest) →
      ∀ version ∈ events, coordinateOf version = coordinateOf newest →
        ∃ request ∈ requestsOf events, Bars env request version ∧ Covers env request version

theorem replica_of_arrivals (readable : Readable env events)
    (admitting : ∀ event, env.admission event = none) (admissible : Admissible events)
    (brings : ∀ event, event ∈ arrivals ↔ event ∈ events) :
    Replica env events (saveAll env .empty arrivals) := by
  have run := (replica_empty env).save_all readable admitting admissible (Set.empty_subset events)
    fun event => (brings event).mp
  have same : ∅ ∪ {event | event ∈ arrivals} = events := by
    ext event
    simp [brings]
  rwa [same] at run

theorem rank_injective (admissible : Admissible events) (one : first ∈ events)
    (other : second ∈ events) (same : first.rank = second.rank) : first = second :=
  admissible.distinct first one second other (rank_eq_iff.mp same).2

theorem Replica.holds_newest (replica : Replica env events s) (admissible : Admissible events)
    (given : version ∈ events) (state : Kind.isState version.kind = true)
    (newest : Newest events version) (untouched : ∀ request ∈ requestsOf events,
      ¬ Bars env request version ∧ ¬ Covers env request version) : s.Holds version := by
  rcases replica.covered version given state with
    ⟨held, rival, later⟩ | ⟨met, member, placed, later, request, asked, hit⟩
  · have member := (replica.known held rival.1).1
    have equal := rank_injective admissible given member
      (later.antisymm (newest held member rival.2))
    rw [equal]
    exact rival.1
  · have equal := rank_injective admissible given member
      (later.antisymm (newest met member placed))
    rw [← equal] at hit
    obtain ⟨unbarred, uncovered⟩ := untouched request asked
    rcases hit with bars | covers
    · exact absurd bars unbarred
    · exact absurd covers uncovered

theorem Covers.of_deletedBy (admissible : Admissible events)
    (asked : request ∈ requestsOf events) (given : version ∈ events)
    (state : Kind.isState version.kind = true) (deletes : DeletedBy env request version) :
    Covers env request version := by
  rcases deletes with names | ⟨named, early⟩
  · exact absurd names (admissible.not_names asked given state)
  · exact ⟨named, .inr early⟩

theorem deletedBy_of_newest (admissible : Admissible events) (asked : request ∈ requestsOf events)
    (given : newest ∈ events) (state : Kind.isState newest.kind = true)
    (latest : Newest events newest) (deletes : DeletedBy env request newest)
    (member : version ∈ events) (placed : coordinateOf version = coordinateOf newest) :
    DeletedBy env request version := by
  rcases deletes with names | ⟨named, early⟩
  · exact absurd names (admissible.not_names asked given state)
  · refine .inr ⟨placed ▸ named, ?_⟩
    exact (createdAt_le_of_rank_le (latest version member placed)).trans early

/-- With times after the epoch and no collision of the hashed coordinates, rows and reads
both agree with the requests' `created_at`. -/
theorem settles_of_positive (admissible : Admissible events)
    (positive : ∀ event ∈ events, 0 < event.createdAt)
    (apart : ∀ request ∈ requestsOf events, ∀ c ∈ deletedCoordinates env.validKey request,
      ∀ version ∈ events, Kind.isState version.kind = true →
        deletionKeyPrefix env.sha256 c = deletionKeyPrefix env.sha256 (coordinateOf version) →
          c = coordinateOf version) : Settles env events := by
  have reached : ∀ request ∈ requestsOf events, ∀ version ∈ events,
      Covers env request version → DeletedBy env request version := by
    intro request asked version _ ⟨named, within⟩
    have dated : request.createdAt ≠ 0 := (positive request asked.1).ne'
    exact .inr ⟨named, within.resolve_left dated⟩
  have barred : ∀ request ∈ requestsOf events, ∀ version ∈ events,
      Kind.isState version.kind = true → Bars env request version →
        DeletedBy env request version := by
    intro request asked version member state ⟨c, named, same, later⟩
    have early := positive request asked.1
    have signed := (SInt64.toUint64_le_iff _ _).mp later
    rw [SInt64.lt_iff, SInt64.zero_val] at early
    refine .inr ⟨apart request asked c named version member state same ▸ named, ?_⟩
    rw [SInt64.le_iff]
    omega
  constructor
  · intro version member state _ undeleted request asked
    exact ⟨fun bars => undeleted request asked (barred request asked version member state bars),
      fun covers => undeleted request asked (reached request asked version member covers)⟩
  · intro newest given state latest ⟨request, asked, deletes⟩ version member placed
    have deleted := deletedBy_of_newest admissible asked given state latest deletes member placed
    have covers := Covers.of_deletedBy admissible asked member (state_of_coordinate placed state)
      deleted
    refine ⟨request, asked, ⟨_, covers.1, rfl, ?_⟩, covers⟩
    have dated : request.createdAt ≠ 0 := (positive request asked.1).ne'
    have early := positive version member
    have ordered := covers.2.resolve_left dated
    rw [SInt64.lt_iff, SInt64.zero_val] at early
    rw [SInt64.le_iff] at ordered
    rw [SInt64.toUint64_le_iff]
    omega

def serviceDeletion (createdAt : Timestamp) : Event :=
  sampleEvent (sampleID 9) createdAt kindDeletion [["a", address 30900 (FixedBytes.ofByte 31 2) "api"]]

theorem serviceDeletion_names (createdAt : Timestamp) :
    deletedCoordinates openEnvironment.validKey (serviceDeletion createdAt) =
      [coordinateOf (serviceVersion 1 10)] := by
  have read : parseAddress (fun _ => true) (address 30900 (FixedBytes.ofByte 31 2) "api") =
      some (30900, FixedBytes.ofByte 31 2, "api") := parseAddress_address rfl
  have kind : Kind.isReplaceable 30900 = false := rfl
  have addressable : Kind.isAddressable 30900 = true := rfl
  simp [deletedCoordinates, deletedCoordinate, serviceDeletion, openEnvironment, read,
    addressable, coordinateOf, serviceVersion, newCoordinate, Tags.getD, Tags.value, Tags.find,
    eraseDups_cons]

def serviceEvents (deletedAt : Timestamp) : Finset Event :=
  {serviceVersion 1 10, serviceVersion 3 20, serviceDeletion deletedAt}

theorem mem_serviceEvents :
    event ∈ (serviceEvents deletedAt : Set Event) ↔ event = serviceVersion 1 10 ∨
      event = serviceVersion 3 20 ∨ event = serviceDeletion deletedAt := by
  simp [serviceEvents]

theorem serviceEvents_requests (asked : request ∈ requestsOf (serviceEvents deletedAt : Set Event)) :
    request = serviceDeletion deletedAt := by
  rcases mem_serviceEvents.mp asked.1 with same | same | same
  · rw [same] at asked
    exact absurd asked.2 (by decide)
  · rw [same] at asked
    exact absurd asked.2 (by decide)
  · exact same

theorem serviceEvents_admissible (deletedAt : Timestamp) :
    Admissible (serviceEvents deletedAt : Set Event) := by
  refine ⟨?_, ?_, ?_, ?_⟩
  · intro first one second other same
    rcases mem_serviceEvents.mp one with rfl | rfl | rfl <;>
      rcases mem_serviceEvents.mp other with rfl | rfl | rfl <;>
      first | rfl | simp [serviceVersion, serviceDeletion] at same
  · intro event member addressable value
    rcases mem_serviceEvents.mp member with rfl | rfl | rfl
    · simp [serviceVersion, Tags.containsAny, Tags.getD, Tags.value, Tags.find]
    · simp [serviceVersion, Tags.containsAny, Tags.getD, Tags.value, Tags.find]
    · cases addressable
  · intro request member kind event _ _ tag inside
    rw [serviceEvents_requests ⟨member, kind⟩] at inside
    rw [mem_singleton.mp inside]
    simp [namedID]
  · intro request member kind tag inside id
    rw [serviceEvents_requests ⟨member, kind⟩] at inside
    rw [mem_singleton.mp inside]
    simp [namedID]

/-- Whatever arrives and is refused, the store never holds two versions of a coordinate that the vendored
index tells apart. -/
theorem one_version_per_coordinate (env : Environment) (md5 : Bytes → FixedBytes 16)
    (index : env.index = vendored md5) (given : Set Event) (apart : Apart md5 env.validKey given)
    (arrivals : List Event) (inside : ∀ event ∈ arrivals, event ∈ given) :
    Collapsed given (saveAll env Store.empty arrivals) :=
  List.foldlRecOn arrivals _ (collapsed_empty given) fun _ collapsed event member =>
    collapsed.save (apart.legible index) (inside event member)

theorem one_version_per_coordinate_service : Collapsed serviceVersions (saveAll keyedEnvironment Store.empty
    [serviceVersion 3 20, serviceVersion 1 10, serviceVersion 3 20]) := by
  refine one_version_per_coordinate keyedEnvironment _ rfl serviceVersions serviceVersions_apart _ ?_
  intro event member
  simp only [mem_cons, not_mem_nil, or_false] at member
  rcases member with rfl | rfl | rfl
  · exact .inr rfl
  · exact .inl rfl
  · exact .inr rfl

end Bahia.Localstore
