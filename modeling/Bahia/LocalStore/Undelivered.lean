import Bahia.Foundation.Runs
import Bahia.LocalStore.IndexKeys
import Bahia.LocalStore.Saves

/-! The markers of undelivered events along runs of the store's operations. -/

namespace Bahia.Localstore
open Foundation Nostr Boltdb Boltcoord Bucket List

inductive StoreOperation where
  | saveEvent (event : Event)
  | deleteEvent (id : ID)
  | pruneRegularEvents (cutoff : Timestamp)
  | pruneExpiredEvents (now : Timestamp)
  | markUndelivered (event : Event) (detail : String) (failedAt : SInt64)
  | clearUndelivered (event : Event)
  | markAssistantCheckpointAccepted (id : ID)
  | setEvidenceHold (active : Bool)

def Environment.perform (env : Environment) (s : Store) : StoreOperation → Option Store
  | .saveEvent event => some (env.saveEvent s event).1
  | .deleteEvent id => some (env.deleteEvent s id).1
  | .pruneRegularEvents cutoff => some (env.pruneRegularEvents s cutoff).1
  | .pruneExpiredEvents now => some (env.pruneExpiredEvents s now).1
  | .markUndelivered event detail failedAt =>
    if s.coords.backend.events.get event.id = some event then
      some (env.markUndelivered s event detail failedAt).1
    else none
  | .clearUndelivered event => some (s.clearUndelivered event).1
  | .markAssistantCheckpointAccepted id => some (env.markAssistantCheckpointAccepted s id).1
  | .setEvidenceHold active => some { s with evidenceHold := active }

/-- The marker on a key is about the event. -/
structure Undelivered.About (marker : Undelivered) (key : String) (event : Event) : Prop where
  coordinate : marker.coordinate = key
  eventID : marker.eventID = event.id
  kind : marker.kind = event.kind
  createdAt : marker.createdAt = event.createdAt
  keyed : undeliveredKey event = key

/-- Every marker names a held event, the latest held version if its kind has versions. -/
def MarkersNameHeld (s : Store) : Prop :=
  ∀ key marker, s.undelivered.get key = some marker → ∃ event, s.Holds event ∧
    marker.About key event ∧ (Kind.isState event.kind = true →
      ∀ version, Rival s event version → version.rank ≤ event.rank)

/-- What an operation takes out of the store other than for a newer version. -/
def Environment.Removes (env : Environment) (s : Store) : StoreOperation → Event → Prop
  | .saveEvent request, event => request.kind = kindDeletion ∧
      request.id ∉ s.coords.backend.events ∧
        (Store.Names request event ∨ Covers env request event)
  | .deleteEvent id, event => event.id = id
  | .pruneRegularEvents cutoff, event => s.evidenceHold = false ∧ 0 < cutoff ∧
      Kind.isRegular event.kind = true ∧ event.kind ≠ kindDeletion ∧
        Environment.assistantCheckpointEvent event = false ∧
          Within (SInt64.wrap (cutoff.val - 1)) event
  | .pruneExpiredEvents now, event => s.evidenceHold = false ∧
      ∃ expiry, Environment.expirationOf event = some expiry ∧ expiry ≤ now
  | _, _ => False

/-- The operation leaves every marked event, and saves none but the given events. -/
structure Environment.Spares (env : Environment) (given : Set Event) (s : Store)
    (operation : StoreOperation) : Prop where
  marked : ∀ key marker event, s.undelivered.get key = some marker → s.Holds event →
    event.id = marker.eventID → ¬ env.Removes s operation event
  saved : ∀ event, operation = .saveEvent event → event ∈ given

structure Marked (given : Set Event) (s : Store) : Prop where
  collapsed : Collapsed given s
  held : ∀ key marker, s.undelivered.get key = some marker →
    ∃ event, s.Holds event ∧ marker.About key event

theorem Marked.markersNameHeld (marked : Marked given s) : MarkersNameHeld s := by
  intro key marker found
  obtain ⟨event, held, about⟩ := marked.held key marker found
  refine ⟨event, held, about, ?_⟩
  intro state version rival
  have one := marked.collapsed.unique version event rival.1 held
    (state_of_coordinate rival.2 state) rival.2
  rw [one]

section Frames
variable {given : Set Event} {s : Store}

theorem Marked.of_fewer (marked : Marked given s) (fewer : ∀ event, t.Holds event → s.Holds event)
    (kept : ∀ key marker event, s.undelivered.get key = some marker → s.Holds event →
      event.id = marker.eventID → t.Holds event)
    (marks : t.undelivered = s.undelivered) : Marked given t := by
  constructor
  · exact marked.collapsed.of_held (fun event held => marked.collapsed.known event (fewer event held))
      fun event held _ => fewer event held
  · intro key marker found
    rw [marks] at found
    obtain ⟨event, held, about⟩ := marked.held key marker found
    exact ⟨event, kept key marker event found held about.eventID.symm, about⟩

theorem Marked.of_markers (marked : Marked given s) (coords : t.coords = s.coords)
    (held : ∀ key marker, t.undelivered.get key = some marker →
      ∃ event, s.Holds event ∧ marker.About key event) : Marked given t := by
  have same : ∀ event, t.Holds event ↔ s.Holds event := by
    intro event
    rw [Store.Holds, coords]
    rfl
  constructor
  · exact marked.collapsed.of_held
      (fun event stored => marked.collapsed.known event ((same event).mp stored))
      fun event stored _ => (same event).mp stored
  · intro key marker found
    obtain ⟨event, stored, about⟩ := held key marker found
    exact ⟨event, (same event).mpr stored, about⟩

theorem deleteEvent_frame (env : Environment) (s : Store) (id : ID) :
    (env.deleteEvent s id).1.undelivered = s.undelivered ∧
      (∀ event, (env.deleteEvent s id).1.Holds event → s.Holds event) ∧
      ∀ event, s.Holds event → event.id ≠ id → (env.deleteEvent s id).1.Holds event := by
  have nothing : s.undelivered = s.undelivered ∧ (∀ event, s.Holds event → s.Holds event) ∧
      ∀ event, s.Holds event → event.id ≠ id → s.Holds event :=
    ⟨rfl, fun _ held => held, fun _ held _ => held⟩
  unfold Environment.deleteEvent
  split
  · exact nothing
  next held rest read =>
  split
  · exact nothing
  next named =>
  split
  · exact nothing
  rw [ne_eq, not_not] at named
  refine ⟨rfl, ?_, ?_⟩
  · intro event stored
    exact (BoltBackend.deleteEvent_holds.mp stored).1
  · intro event stored other
    exact BoltBackend.deleteEvent_holds.mpr ⟨stored, fun same => other (same.symm.trans named)⟩

theorem deleteCollected_frame (env : Environment) (text : String) (ids : List ID) (s : Store)
    (count : Nat) :
    (env.deleteCollected text s ids count).1.undelivered = s.undelivered ∧
      (∀ event, (env.deleteCollected text s ids count).1.Holds event → s.Holds event) ∧
      ∀ event, s.Holds event → event.id ∉ ids →
        (env.deleteCollected text s ids count).1.Holds event := by
  induction ids generalizing s count with
  | nil => exact ⟨rfl, fun _ held => held, fun _ held _ => held⟩
  | cons id rest ih =>
    unfold Environment.deleteCollected
    split
    · exact ⟨rfl, fun _ held => held, fun _ held _ => held⟩
    obtain ⟨marks, fewer, kept⟩ := deleteEvent_frame env s id
    cases deleted : env.deleteEvent s id with
    | mk removed outcome =>
      rw [deleted] at marks fewer kept
      cases outcome with
      | ok =>
        obtain ⟨laterMarks, laterFewer, laterKept⟩ := ih removed (count + 1)
        refine ⟨laterMarks.trans marks, ?_, ?_⟩
        · intro event held
          exact fewer event (laterFewer event held)
        · intro event held unlisted
          exact laterKept event (kept event held (ne_of_not_mem_cons unlisted))
            (not_mem_of_not_mem_cons unlisted)
      | error =>
        refine ⟨marks, fewer, ?_⟩
        intro event held unlisted
        exact kept event held (ne_of_not_mem_cons unlisted)

variable {event : Event} {key : String} {marker : Undelivered}

theorem clearUndeliveredUnless_get
    (found : (s.clearUndeliveredUnless event keep).1.undelivered.get key = some marker) :
    s.undelivered.get key = some marker ∧
      (key = undeliveredKey event → keep marker = true) := by
  unfold Store.clearUndeliveredUnless at found
  split at found
  next existing stored =>
    split at found
    next kept =>
      refine ⟨found, ?_⟩
      intro same
      rw [same, stored] at found
      cases found
      exact kept
    next =>
      obtain ⟨apart, before⟩ := get_delete_cases found
      exact ⟨before, fun same => absurd same apart⟩
  next missing =>
    refine ⟨found, ?_⟩
    intro same
    rw [same, missing] at found
    cases found

theorem undeliveredKey_of_coordinate (state : Kind.isState second.kind = true)
    (same : coordinateOf first = coordinateOf second) :
    undeliveredKey first = undeliveredKey second := by
  have versioned := state_of_coordinate same state
  unfold undeliveredKey
  rw [show (Kind.isReplaceable first.kind || Kind.isAddressable first.kind) = true from versioned,
    show (Kind.isReplaceable second.kind || Kind.isAddressable second.kind) = true from state,
    if_pos rfl, if_pos rfl, same]

theorem olderThan_of_about (about : marker.About key old) (older : isOlder old event = true) :
    olderThan marker event = true := by
  unfold olderThan
  rw [about.createdAt, about.eventID]
  rcases isOlder_iff.mp older with before | ⟨same, lower⟩
  · rw [if_pos before.ne]
    exact decide_eq_true before
  · rw [if_neg (not_not.mpr same)]
    exact decide_eq_true lower

end Frames

section Steps
variable {env : Environment} {given : Set Event} {s : Store}

variable {event : Event}

theorem Marked.saveEvent (legible : Legible env given) (marked : Marked given s)
    (spares : env.Spares given s (.saveEvent event)) : Marked given (env.saveEvent s event).1 := by
  have member := spares.saved event rfl
  refine ⟨marked.collapsed.save legible member, ?_⟩
  have outcome : Saved env s event _ := saveEvent_saved legible marked.collapsed member
  cases outcome with
  | refused _ same | passed _ same | known _ same | deleted _ _ _ same | superseded _ _ same =>
    rw [same]
    exact marked.held
  | requested request fresh holds _ marks =>
    intro key marker found
    rw [marks] at found
    obtain ⟨old, held, about⟩ := marked.held key marker found
    have kept := spares.marked key marker old found held about.eventID.symm
    refine ⟨old, (holds old).mpr (.inr ⟨held, ?_, ?_⟩), about⟩
    · intro names
      exact kept ⟨request, fresh, .inl names⟩
    · intro covers
      exact kept ⟨request, fresh, .inr covers⟩
  | replaced state _ _ older holds _ marks =>
    intro key marker found
    rw [marks] at found
    obtain ⟨before, kept⟩ := clearUndeliveredUnless_get found
    obtain ⟨old, held, about⟩ := marked.held key marker before
    refine ⟨old, (holds old).mpr (.inr ⟨held, ?_⟩), about⟩
    -- The marker of a replaced version stands on the event's key and is older.
    intro placed
    have same := about.keyed.symm.trans (undeliveredKey_of_coordinate state placed)
    have late := kept same
    rw [olderThan_of_about about (older old ⟨held, placed⟩)] at late
    cases late
  | stored _ _ _ _ _ holds _ marks =>
    intro key marker found
    rw [marks] at found
    obtain ⟨old, held, about⟩ := marked.held key marker found
    exact ⟨old, (holds old).mpr (.inr held), about⟩

section
variable (marked : Marked given s)
include marked

theorem Marked.deleteCollected (text : String) {expired : List Event}
    (stored : ∀ event ∈ expired, s.Holds event)
    (spared : ∀ key marker event, s.undelivered.get key = some marker → s.Holds event →
      event.id = marker.eventID → event ∉ expired) :
    Marked given (env.deleteCollected text s (expired.map Event.id) 0).1 := by
  obtain ⟨marks, fewer, kept⟩ := deleteCollected_frame env text (expired.map Event.id) s 0
  apply marked.of_fewer fewer ?_ marks
  intro key marker event found held named
  apply kept event held
  intro listed
  obtain ⟨other, member, same⟩ := mem_map.mp listed
  have one := BoltBackend.Holds.eq (stored other member) held same
  subst one
  exact spared key marker other found held named member

theorem Marked.pruneRegularEvents (legible : Legible env given)
    (spares : env.Spares given s (.pruneRegularEvents cutoff)) :
    Marked given (env.pruneRegularEvents s cutoff).1 := by
  unfold Environment.pruneRegularEvents
  split
  · exact marked
  next active =>
  rw [Bool.or_eq_true, not_or, Bool.not_eq_true, decide_eq_true_eq, not_le] at active
  have late : 0 ≤ SInt64.wrap (cutoff.val - 1) := by
    have positive := SInt64.lt_iff.mp active.2
    have upper := cutoff.upper
    rw [SInt64.zero_val] at positive
    rw [SInt64.le_iff, SInt64.zero_val, SInt64.wrap_val (by omega) (by omega)]
    omega
  have read {event : Event} : event ∈ env.queryEvents s _ → _ := legible.mem_upTo marked.collapsed late
  apply marked.deleteCollected
  · intro event member
    exact (read (mem_filter.mp member).1).1
  · intro key marker event found held named member
    obtain ⟨listed, regular⟩ := mem_filter.mp member
    simp only [Bool.and_eq_true, bne_iff_ne, Bool.not_eq_true'] at regular
    exact spares.marked key marker event found held named
      ⟨active.1, active.2, regular.1.1, regular.1.2, regular.2, (read listed).2⟩

theorem Marked.pruneExpiredEvents (legible : Legible env given)
    (spares : env.Spares given s (.pruneExpiredEvents now)) :
    Marked given (env.pruneExpiredEvents s now).1 := by
  unfold Environment.pruneExpiredEvents
  split
  · exact marked
  next active =>
  rw [Bool.not_eq_true] at active
  apply marked.deleteCollected
  · intro event member
    exact (legible.mem_upTo marked.collapsed le_rfl (mem_filter.mp member).1).1
  · intro key marker event found held named member
    obtain ⟨_, due⟩ := mem_filter.mp member
    obtain ⟨expiry, read, early⟩ := (Option.any_eq_true _ _).mp due
    exact spares.marked key marker event found held named
      ⟨active, expiry, read, of_decide_eq_true early⟩

theorem Marked.markUndelivered (held : s.Holds event) (detail : String) (failedAt : SInt64) :
    Marked given (env.markUndelivered s event detail failedAt).1 := by
  unfold Environment.markUndelivered
  dsimp only
  split
  · exact marked
  refine marked.of_markers (by rfl) ?_
  intro key marker found
  rcases get_put_cases found with ⟨same, equal⟩ | ⟨_, before⟩
  · subst equal
    exact ⟨event, held, same.symm, rfl, rfl, rfl, same.symm⟩
  · exact marked.held key marker before

theorem Marked.clearUndelivered (event : Event) : Marked given (s.clearUndelivered event).1 := by
  apply marked.of_markers (clearUndeliveredUnless_frame s event _).1
  intro key marker found
  exact marked.held key marker (clearUndeliveredUnless_get found).1

end

theorem Marked.perform (legible : Legible env given) (marked : Marked given s)
    (spares : env.Spares given s operation) (performed : env.perform s operation = some t) :
    Marked given t := by
  cases operation with
  | saveEvent =>
    cases performed
    exact marked.saveEvent legible spares
  | deleteEvent id =>
    cases performed
    obtain ⟨marks, fewer, kept⟩ := deleteEvent_frame env s id
    apply marked.of_fewer fewer ?_ marks
    intro key marker event found held named
    exact kept event held (spares.marked key marker event found held named)
  | pruneRegularEvents =>
    cases performed
    exact marked.pruneRegularEvents legible spares
  | pruneExpiredEvents =>
    cases performed
    exact marked.pruneExpiredEvents legible spares
  | markUndelivered event detail failedAt =>
    simp only [Environment.perform] at performed
    split at performed
    next held =>
      cases performed
      exact marked.markUndelivered held detail failedAt
    next => cases performed
  | clearUndelivered event =>
    cases performed
    exact marked.clearUndelivered event
  | markAssistantCheckpointAccepted =>
    cases performed
    apply marked.of_markers
    · unfold Environment.markAssistantCheckpointAccepted
      dsimp only
      split <;> rfl
    · unfold Environment.markAssistantCheckpointAccepted
      dsimp only
      split
      · exact marked.held
      · exact marked.held
  | setEvidenceHold =>
    cases performed
    exact marked.of_markers rfl marked.held

end Steps

theorem marked_empty (given : Set Event) : Marked given Store.empty := by
  refine ⟨collapsed_empty given, ?_⟩
  intro key marker found
  cases (get_empty key).symm.trans found

/-- In every run that saves events which the vendored index tells apart, and whose operations spare the
marked ones, every marker names a held event, the latest of its coordinate. -/
theorem run_markers_name_held (env : Environment) (md5 : Bytes → FixedBytes 16)
    (index : env.index = vendored md5) (given : Set Event) (apart : Apart md5 env.validKey given)
    (operations : List StoreOperation) (final : Store)
    (sparing : Along env.perform (env.Spares given) Store.empty operations)
    (executed : run env.perform Store.empty operations = some final) : MarkersNameHeld final :=
  (run_invariant (fun _ _ _ => Marked.perform (apart.legible index)) (marked_empty given) sparing
    executed).markersNameHeld

def serviceVersion (id : Byte) (createdAt : Timestamp) : Event :=
  sampleEvent (sampleID id) createdAt 30900 [["d", "api"]]

def keyedEnvironment : Environment := { openEnvironment with index := vendored startHash }

def serviceVersions : Set Event := {serviceVersion 1 10, serviceVersion 3 20}

theorem serviceVersions_apart : Apart startHash keyedEnvironment.validKey serviceVersions := by
  have either {event : Event} (member : event ∈ serviceVersions) :
      event = serviceVersion 1 10 ∨ event = serviceVersion 3 20 := member
  refine ⟨?_, ?_, ?_, ?_, ?_⟩
  · intro event member
    rcases either member with rfl | rfl <;> decide
  · intro event member
    rcases either member with rfl | rfl <;> decide
  · intro first one second other same
    rcases either one with rfl | rfl <;> rcases either other with rfl | rfl
    · rfl
    · exact absurd same (by decide)
    · exact absurd same (by decide)
    · rfl
  · intro event member _ value
    rcases either member with rfl | rfl <;>
      simp [serviceVersion, Tags.containsAny, Tags.getD, Tags.value, Tags.find]
  · rintro c (⟨event, member, _, rfl⟩ | ⟨request, member, named⟩)
    · refine ⟨fun other inside _ _ => ?_, fun other inside _ _ value _ carries _ => ?_⟩
      · rcases either member with rfl | rfl <;> rcases either inside with rfl | rfl <;> rfl
      · rcases either member with rfl | rfl <;> rcases either inside with rfl | rfl <;>
          simpa [serviceVersion, Tags.containsAny, coordinateOf, newCoordinate, Tags.getD, Tags.value,
            Tags.find, Kind.isAddressable, eq_comm] using carries
    · rcases either member with rfl | rfl <;> cases named

def abandonVersions : List StoreOperation :=
  [.saveEvent (serviceVersion 1 10), .markUndelivered (serviceVersion 1 10) "no relay accepted it" 0,
    .saveEvent (serviceVersion 3 20), .markUndelivered (serviceVersion 3 20) "no relay accepted it" 0]

theorem run_markers_name_held_versions :
    ∃ final, run keyedEnvironment.perform Store.empty abandonVersions = some final ∧
      (final.undelivered.get (undeliveredKey (serviceVersion 3 20))).map Undelivered.eventID =
        some (sampleID 3) ∧ MarkersNameHeld final := by
  have last : ((run keyedEnvironment.perform Store.empty abandonVersions).bind fun final =>
      (final.undelivered.get (undeliveredKey (serviceVersion 3 20))).map Undelivered.eventID) =
        some (sampleID 3) := by decide +kernel
  obtain ⟨final, executed, marked⟩ := Option.bind_eq_some_iff.mp last
  refine ⟨final, executed, marked, ?_⟩
  refine run_markers_name_held keyedEnvironment _ rfl serviceVersions serviceVersions_apart abandonVersions
    final ?_ executed
  have spared (s : Store) (event : Event) (member : event ∈ serviceVersions) :
      keyedEnvironment.Spares serviceVersions s (.saveEvent event) := by
    refine ⟨fun _ _ _ _ _ _ removes => ?_, fun other same => by cases same; exact member⟩
    rcases member with rfl | rfl <;> exact absurd removes.1 (by decide)
  have marks (s : Store) (event : Event) (detail : String) (failedAt : SInt64) :
      keyedEnvironment.Spares serviceVersions s (.markUndelivered event detail failedAt) :=
    ⟨fun _ _ _ _ _ _ removes => removes, fun _ same => by cases same⟩
  exact ⟨spared _ _ (.inl rfl), fun _ _ => ⟨marks _ _ _ _, fun _ _ => ⟨spared _ _ (.inr rfl),
    fun _ _ => ⟨marks _ _ _ _, fun _ _ => trivial⟩⟩⟩⟩

def note : Event := sampleEvent (sampleID 1) 10 1 []

def abandonNote : List StoreOperation :=
  [.saveEvent note, .markUndelivered note "no relay accepted it" 0]

def noteDeletion : Event := sampleEvent (sampleID 3) 20 kindDeletion [["e", ID.hex note.id]]

/-- The request removes the event and the marker stays. -/
theorem deletion_leaves_marker :
    ¬ ∀ (env : Environment) (operations : List StoreOperation) (final : Store),
      run env.perform Store.empty operations = some final → MarkersNameHeld final := by
  intro claimed
  obtain ⟨final, executed, marked, gone⟩ : ∃ final,
      run keyedEnvironment.perform Store.empty (abandonNote ++ [.saveEvent noteDeletion]) = some final ∧
        (final.undelivered.get (undeliveredKey note)).map Undelivered.eventID = some note.id ∧
          final.coords.backend.events.get note.id = none := ⟨_, rfl, rfl, rfl⟩
  obtain ⟨marker, found, names⟩ := Option.map_eq_some_iff.mp marked
  obtain ⟨event, held, about, _⟩ := claimed keyedEnvironment _ final executed _ marker found
  have same : event.id = note.id := about.eventID.symm.trans names
  have stored : final.coords.backend.events.get event.id = some event := held
  rw [same, gone] at stored
  cases stored

end Bahia.Localstore
