import Bahia.Boltcoord.DeletionRows
import Bahia.LocalStore.Reads

/-! What `saveEvent` leaves stored, indexed and marked, case by case. -/

namespace Bahia.Localstore
open Foundation Nostr Boltdb Boltcoord List

section Saves
variable {env : Environment} {given : Set Event} {s : Store} {event : Event}

theorem hasLocked_iff {id : ID} : s.hasLocked id = true ↔ id ∈ s.coords.backend.events := by
  unfold Store.hasLocked
  cases found : s.coords.backend.events.get id with
  | none | some => simp [BoltBackend.queryByIds, found, Bucket.mem_def]

theorem hex_indexable (id : ID) : tagIndexable (ID.hex id) = true := by
  have size : (ID.hex id).utf8ByteSize = 64 := by
    rw [ID.hex, hex_utf8ByteSize, id.2]
  have present : ID.hex id ≠ "" := by
    intro empty
    rw [empty] at size
    cases size
  simp [tagIndexable, present, size, tagIndexMaxValue]

/-- The stored requests of the author that name the id as the store writes it. -/
def NamedBy (s : Store) (event request : Event) : Prop :=
  s.Holds request ∧ request.kind = kindDeletion ∧ request.pubKey = event.pubKey ∧
    Tags.containsAny request.tags "e" [ID.hex event.id] = true

/-- Of the given events, the store finds the requests that NIP-01 says name an id. -/
def FindsNaming (env : Environment) (given : Set Event) : Prop :=
  ∀ event ∈ given, ∀ request ∈ given,
    env.index (authorFilter kindDeletion event.pubKey [("e", [ID.hex event.id])] 0) request =
      BoltBackend.finds (authorFilter kindDeletion event.pubKey [("e", [ID.hex event.id])] 0) request

theorem pagedQuery_named :
    s.pagedQuery index (authorFilter kindDeletion author [("e", [text])] 0) (some 1) =
      (s.coords.backend.found index (authorFilter kindDeletion author [("e", [text])] 0)).take 1 := by
  have unlimited : (authorFilter kindDeletion author [("e", [text])] 0).getTheoreticalLimit = none := rfl
  rw [pagedQuery_first rfl .one (.inr rfl), queryEvents_page rfl, unlimited]
  exact take_take

theorem take_one_nonempty {events : List Event} :
    (!(events.take 1).isEmpty) = true ↔ ∃ event, event ∈ events := by
  cases events with
  | nil => simp
  | cons head => exact ⟨fun _ => ⟨head, mem_cons_self⟩, fun _ => rfl⟩

theorem named_lookup (naming : FindsNaming env given) (known : ∀ event, s.Holds event → event ∈ given)
    (member : event ∈ given) : (!(env.queryEvents s
    { kinds := some [kindDeletion], authors := some [event.pubKey]
      tags := [("e", [ID.hex event.id])], limit := 1 }).isEmpty) = true ↔
    ∃ request, NamedBy s event request := by
  show (!(env.scan s (authorFilter kindDeletion event.pubKey [("e", [ID.hex event.id])] 0)
    (some 1)).isEmpty) = true ↔ _
  rw [scan_eq .one fun _ => needsTagIndex_tagged (hex_indexable event.id), pagedQuery_named,
    found_congr fun request held => naming event member request (known request held), take_one_nonempty]
  apply exists_congr
  intro request
  rw [BoltBackend.mem_found, finds_tagged (hex_indexable event.id)]
  constructor
  · intro ⟨held, kind, author, named, _⟩
    exact ⟨held, kind, author, named⟩
  · intro ⟨held, kind, author, named⟩
    exact ⟨held, kind, author, named, .inl rfl⟩

theorem deletedLocked_iff (naming : FindsNaming env given) (known : ∀ event, s.Holds event → event ∈ given)
    (member : event ∈ given) (other : event.kind ≠ kindDeletion) :
    env.deletedLocked s event = true ↔ (∃ request, NamedBy s event request) ∨
      (Kind.isState event.kind = true ∧
        DeletionIndex.deleted env.sha256 s.deletions (coordinateOf event) event.createdAt = true) := by
  unfold Environment.deletedLocked
  rw [if_neg other]
  dsimp only
  split
  next named => exact ⟨fun _ => .inl ((named_lookup naming known member).mp named), fun _ => rfl⟩
  next unnamed =>
    have nobody : ¬ ∃ request, NamedBy s event request := fun found =>
      unnamed ((named_lookup naming known member).mpr found)
    rw [or_iff_right nobody, ← Bool.not_or]
    split
    next plain =>
      have stateless : Kind.isState event.kind = false := by simpa [Kind.isState] using plain
      simp [stateless]
    next kept =>
      rw [Bool.not_eq_true', Bool.not_eq_false] at kept
      have state : Kind.isState event.kind = true := kept
      simp [state]

def Rival (s : Store) (event version : Event) : Prop :=
  s.Holds version ∧ coordinateOf version = coordinateOf event

theorem unindexTags_backend {sha256 : Bytes → FixedBytes 32} {replaced : List Event}
    {st : Boltcoord.Store} :
    (replaced.foldl (fun st older => st.unindexTags sha256 older) st).backend = st.backend := by
  induction replaced generalizing st with
  | nil => rfl
  | cons older rest ih => exact ih

section
variable (legible : Legible env given) (collapsed : Collapsed given s) (member : event ∈ given)
  (state : Kind.isState event.kind = true)
include legible collapsed member state

/-- Only versions of the coordinate are compared in the eventstore, and all of them when
its `d` is indexed. -/
theorem mem_previous :
    previous ∈ s.coords.backend.query env.index (BoltBackend.versionFilter event) 10 ↔
      (s.Holds previous ∧ coordinateOf previous = coordinateOf event) ∧
        (coordinateOf event).dIndexed = true := by
  have proper := coordinateOf_proper state
  have asks : Asks env.validKey given (coordinateOf event) := .inl ⟨event, member, state, rfl⟩
  have ten : ∀ {events : List Event}, (∀ version, version ∈ events ↔
      s.Holds version ∧ coordinateOf version = coordinateOf event ∧ Within 0 version) →
      (previous ∈ events.take 10 ↔
        s.Holds previous ∧ coordinateOf previous = coordinateOf event) := by
    intro events versions
    rw [mem_take_of_unique 9 (versions_unique collapsed proper versions), versions]
    simp [Within]
  by_cases addressable : Kind.isAddressable event.kind = true
  · have filter : BoltBackend.versionFilter event =
        authorFilter (coordinateOf event).kind (coordinateOf event).author
          [("d", [(coordinateOf event).d])] 0 := by
      simp [BoltBackend.versionFilter, authorFilter, coordinateOf, newCoordinate, addressable]
    have place : Kind.isAddressable (coordinateOf event).kind = true := addressable
    rw [filter, BoltBackend.query, legible.found collapsed asks (.inl rfl) (.inr rfl)]
    by_cases indexed : tagIndexable (coordinateOf event).d = true
    · have fast : (coordinateOf event).dIndexed = true := by simp [Coordinate.dIndexed, indexed]
      rw [and_iff_left fast]
      exact ten fun version => found_tagged legible collapsed place indexed
    have slow : ¬ (coordinateOf event).dIndexed = true := by
      simp [Coordinate.dIndexed, place, indexed]
    have nothing : ¬ previous ∈ (s.coords.backend.found BoltBackend.finds
        (authorFilter (coordinateOf event).kind (coordinateOf event).author
          [("d", [(coordinateOf event).d])] 0)).take 10 := by
      intro member
      have found := (BoltBackend.mem_found.mp (mem_of_mem_take member)).2
      rw [finds_unindexed (Bool.not_eq_true _ ▸ indexed)] at found
      cases found
    exact iff_of_false nothing fun both => slow both.2
  · have filter : BoltBackend.versionFilter event =
        authorFilter (coordinateOf event).kind (coordinateOf event).author [] 0 := by
      simp [BoltBackend.versionFilter, authorFilter, coordinateOf, newCoordinate, addressable]
    have plain : Kind.isAddressable (coordinateOf event).kind = false :=
      Bool.not_eq_true _ ▸ addressable
    have fast : (coordinateOf event).dIndexed = true := by simp [Coordinate.dIndexed, plain]
    rw [filter, and_iff_left fast, BoltBackend.query, legible.found collapsed asks (.inl rfl) (.inl rfl)]
    exact ten fun version => found_replaceable proper plain

theorem mem_current :
    version ∈ versions (env.scan s) (coordinateOf event) 0
        (if (coordinateOf event).dIndexed then some 1 else none) ↔ Rival s event version := by
  have wanted : OneOrAll (if (coordinateOf event).dIndexed then some 1 else none) := by
    split
    · exact .one
    · exact .all
  rw [mem_versions legible collapsed (.inl ⟨event, member, state, rfl⟩) (.inl rfl)
    (coordinateOf_proper state) wanted]
  simp [Within, Rival]

omit legible member in
theorem rival_unique (one : Rival s event first) (other : Rival s event second) :
    first = second := by
  apply collapsed.unique first second one.1 other.1
  · have same : first.kind = event.kind := congrArg Coordinate.kind one.2
    rw [same]
    exact state
  · exact one.2.trans other.2.symm

omit legible member in
theorem late_rival_iff
    {current : List Event} (members : ∀ version, version ∈ current ↔ Rival s event version) :
    (current.head?.any fun newest => !isOlder newest event) = true ↔
      ∃ version, Rival s event version ∧ isOlder version event = false := by
  cases current with
  | nil =>
    constructor
    · intro impossible
      cases impossible
    · intro ⟨version, rival, _⟩
      cases (members version).mpr rival
  | cons head =>
    have first := (members head).mp mem_cons_self
    simp only [List.head?_cons, Option.any_some, Bool.not_eq_true']
    constructor
    · intro late
      exact ⟨head, first, late⟩
    · intro ⟨version, rival, late⟩
      rw [rival_unique collapsed state first rival]
      exact late

theorem replace_superseded
    (superseded : ∃ version, Rival s event version ∧ isOlder version event = false) :
    s.coords.replace env.sha256 env.index (env.scan s) event = (s.coords, false) := by
  unfold Boltcoord.Store.replace
  exact if_pos ((late_rival_iff collapsed state fun _ =>
    mem_current legible collapsed member state).mpr superseded)

section
variable (fresh : event.id ∉ s.coords.backend.events)
  (older : ∀ version, Rival s event version → isOlder version event = true)
include fresh older

theorem replaceEvent_holds (other : Event) :
    (s.coords.backend.replaceEvent env.index event).1.Holds other ↔ other = event ∨
      (s.Holds other ∧ ¬ (Rival s event other ∧ (coordinateOf event).dIndexed = true)) := by
  have members : ∀ version, version ∈
      s.coords.backend.query env.index (BoltBackend.versionFilter event) 10 ↔
        Rival s event version ∧ (coordinateOf event).dIndexed = true :=
    fun version => mem_previous legible collapsed member state
  unfold BoltBackend.replaceEvent
  rw [if_neg fresh]
  dsimp only
  generalize s.coords.backend.query env.index (BoltBackend.versionFilter event) 10 = previous at members ⊢
  have everything : previous.filter (isOlder · event) = previous := by
    rw [filter_eq_self]
    intro version member
    exact older version ((members version).mp member).1
  have all : previous.all (isOlder · event) = true := by
    rw [all_eq_true]
    intro version member
    exact older version ((members version).mp member).1
  rw [everything, if_pos all, BoltBackend.put_holds, BoltBackend.deleteEvents_holds]
  · apply or_congr_right
    apply and_congr_right
    intro held
    constructor
    · intro spared both
      exact spared other ((members other).mpr both) rfl
    · intro apart version member same
      obtain ⟨rival, indexed⟩ := (members version).mp member
      have equal := rival.1.eq held same
      subst equal
      exact apart ⟨rival, indexed⟩
  · intro member
    obtain ⟨stored, same, held⟩ := BoltBackend.holds_of_mem member
    rw [BoltBackend.deleteEvents_holds] at held
    exact fresh (same ▸ held.1.mem)

theorem replace_stored : (s.coords.replace env.sha256 env.index (env.scan s) event).2 = true ∧
      ∀ other, (s.coords.replace env.sha256 env.index (env.scan s) event).1.backend.Holds other ↔
        other = event ∨ (s.Holds other ∧ coordinateOf other ≠ coordinateOf event) := by
  have members : ∀ version, version ∈ versions (env.scan s) (coordinateOf event) 0
      (if (coordinateOf event).dIndexed then some 1 else none) ↔ Rival s event version :=
    fun version => mem_current legible collapsed member state
  have current := (late_rival_iff collapsed state members).not.mpr (by
    intro ⟨version, rival, late⟩
    rw [older version rival] at late
    cases late)
  unfold Boltcoord.Store.replace
  dsimp only
  rw [if_neg current]
  refine ⟨rfl, ?_⟩
  intro other
  have written := replaceEvent_holds legible collapsed member state fresh older other
  generalize versions (env.scan s) (coordinateOf event) 0
    (if (coordinateOf event).dIndexed then some 1 else none) = listed at members ⊢
  by_cases indexed : (coordinateOf event).dIndexed = true
  · rw [if_pos indexed, unindexTags_backend]
    rw [written]
    apply or_congr_right
    apply and_congr_right
    intro held
    rw [and_iff_left indexed, Rival, and_iff_right held]
  · rw [if_neg indexed, Store.deleteAll_holds, unindexTags_backend]
    dsimp only
    rw [written]
    constructor
    · intro ⟨either, spared⟩
      rcases either with same | ⟨held, _⟩
      · exact .inl same
      refine .inr ⟨held, ?_⟩
      intro placed
      exact spared other ((members other).mpr ⟨held, placed⟩) rfl
    · intro either
      rcases either with same | ⟨held, apart⟩
      · refine ⟨.inl same, ?_⟩
        intro version member equal
        have rival := (members version).mp member
        rw [same] at equal
        exact fresh (equal ▸ rival.1.mem)
      · refine ⟨.inr ⟨held, fun both => indexed both.2⟩, ?_⟩
        intro version member equal
        have rival := (members version).mp member
        have one := rival.1.eq held equal
        subst one
        exact apart rival.2

end

end

theorem deletedCoordinate_some (read : deletedCoordinate validKey requester tag = some c) :
    ∃ kind d, Kind.isState kind = true ∧ c = newCoordinate kind requester d := by
  unfold deletedCoordinate at read
  split at read
  next name value rest =>
    split at read
    next =>
      obtain ⟨⟨kind, author, d⟩, _, made⟩ := Option.bind_eq_some_iff.mp read
      dsimp only at made
      split at made
      next => cases made
      next own =>
        rw [← Bool.not_or, Bool.or_eq_true, not_or, bne_iff_ne, not_not, Bool.not_eq_true',
          Bool.not_eq_false] at own
        cases made
        exact ⟨kind, d, own.2, by rw [own.1]⟩
    next => cases read
  next => cases read

theorem deletedCoordinates_proper (named : c ∈ deletedCoordinates validKey request) :
    c.Proper ∧ c.author = request.pubKey := by
  obtain ⟨tag, _, read⟩ := (mem_deletedCoordinates validKey).mp named
  obtain ⟨kind, d, state, made⟩ := deletedCoordinate_some read
  subst made
  refine ⟨⟨state, ?_⟩, rfl⟩
  intro plain
  exact if_neg (Bool.not_eq_true _ ▸ plain)

/-- The versions a request's coordinates reach. -/
def Covers (env : Environment) (request version : Event) : Prop :=
  coordinateOf version ∈ deletedCoordinates env.validKey request ∧ Within request.createdAt version

theorem saveDeletionLocked_saved (legible : Legible env given) (collapsed : Collapsed given s)
    (member : event ∈ given) (fresh : event.id ∉ s.coords.backend.events) :
    (env.saveDeletionLocked s event).2 = .ok () ∧
      (env.saveDeletionLocked s event).1.deletions =
        DeletionIndex.index env.sha256 env.validKey s.deletions event ∧
      (env.saveDeletionLocked s event).1.undelivered = s.undelivered ∧
      ∀ other, (env.saveDeletionLocked s event).1.Holds other ↔ other = event ∨
        (s.Holds other ∧ ¬ Store.Names event other ∧ ¬ Covers env event other) := by
  have read {c : Coordinate} {version : Event} (named : c ∈ deletedCoordinates env.validKey event) :
      version ∈ versions (env.scan s) c event.createdAt none ↔ _ :=
    mem_versions legible collapsed (.inr ⟨event, member, named⟩) (.inr ⟨event, member, rfl⟩)
      (deletedCoordinates_proper named).1 .all
  have applied : ∀ other, (Boltcoord.Store.applyDeletion env.sha256 env.validKey (env.scan s)
      s.coords event).1.backend.Holds other ↔
        s.Holds other ∧ ¬ Store.Names event other ∧ ¬ Covers env event other := by
    intro other
    rw [Store.applyDeletion_holds]
    apply and_congr_right
    intro held
    apply and_congr_right
    intro _
    constructor
    · intro spared covers
      exact spared _ covers.1 other ((read covers.1).mpr ⟨held, rfl, covers.2⟩) rfl
    · intro uncovered c named version member same
      obtain ⟨stored, placed, within⟩ := (read named).mp member
      have one := BoltBackend.Holds.eq stored held same
      subst one
      exact uncovered ⟨placed ▸ named, within⟩
  have free : event.id ∉ (Boltcoord.Store.applyDeletion env.sha256 env.validKey (env.scan s)
      s.coords event).1.backend.events := by
    intro member
    obtain ⟨stored, same, held⟩ := BoltBackend.holds_of_mem member
    exact fresh (same ▸ ((applied stored).mp held).1.mem)
  unfold Environment.saveDeletionLocked
  dsimp only
  rw [Store.save_fresh free]
  refine ⟨rfl, rfl, rfl, ?_⟩
  intro other
  rw [← applied other]
  exact BoltBackend.put_holds free

end Saves

inductive Saved (env : Environment) (s : Store) (event : Event) (t : Store) : Prop
  | refused (refusal : (env.admission event).isSome = true) (same : t = s)
  | passed (ephemeral : Kind.isEphemeral event.kind = true) (same : t = s)
  | known (held : event.id ∈ s.coords.backend.events) (same : t = s)
  | deleted (fresh : event.id ∉ s.coords.backend.events) (other : event.kind ≠ kindDeletion)
      (deleted : env.deletedLocked s event = true) (same : t = s)
  | superseded (state : Kind.isState event.kind = true)
      (late : ∃ version, Rival s event version ∧ isOlder version event = false) (same : t = s)
  | requested (request : event.kind = kindDeletion) (fresh : event.id ∉ s.coords.backend.events)
      (holds : ∀ other, t.Holds other ↔ other = event ∨
        (s.Holds other ∧ ¬ Store.Names event other ∧ ¬ Covers env event other))
      (rows : t.deletions = DeletionIndex.index env.sha256 env.validKey s.deletions event)
      (marks : t.undelivered = s.undelivered)
  | replaced (state : Kind.isState event.kind = true) (fresh : event.id ∉ s.coords.backend.events)
      (spared : env.deletedLocked s event = false)
      (older : ∀ version, Rival s event version → isOlder version event = true)
      (holds : ∀ other, t.Holds other ↔ other = event ∨
        (s.Holds other ∧ coordinateOf other ≠ coordinateOf event))
      (rows : t.deletions = s.deletions)
      (marks : t.undelivered = (s.clearSupersededUndelivered event).1.undelivered)
  | stored (plain : Kind.isState event.kind = false) (other : event.kind ≠ kindDeletion)
      (lasting : Kind.isEphemeral event.kind = false)
      (fresh : event.id ∉ s.coords.backend.events) (spared : env.deletedLocked s event = false)
      (holds : ∀ other, t.Holds other ↔ other = event ∨ s.Holds other)
      (rows : t.deletions = s.deletions) (marks : t.undelivered = s.undelivered)

theorem clearUndeliveredUnless_frame (s : Store) (event : Event) (keep : Undelivered → Bool) :
    (s.clearUndeliveredUnless event keep).1.coords = s.coords ∧
      (s.clearUndeliveredUnless event keep).1.deletions = s.deletions := by
  unfold Store.clearUndeliveredUnless
  split
  · split
    · exact ⟨rfl, rfl⟩
    · exact ⟨rfl, rfl⟩
  · exact ⟨rfl, rfl⟩

theorem clearUndeliveredUnless_marks {s t : Store} (same : t.undelivered = s.undelivered)
    (event : Event) (keep : Undelivered → Bool) :
    (t.clearUndeliveredUnless event keep).1.undelivered =
      (s.clearUndeliveredUnless event keep).1.undelivered := by
  unfold Store.clearUndeliveredUnless
  rw [same]
  split
  · split
    · exact same
    · rfl
  · exact same

theorem saveEvent_saved (legible : Legible env given) (collapsed : Collapsed given s)
    (member : event ∈ given) :
    Saved env s event (env.saveEvent s event).1 := by
  unfold Environment.saveEvent
  split
  next refusal judged => exact .refused (by rw [judged]; rfl) rfl
  next =>
    split
    next ephemeral => exact .passed ephemeral rfl
    next lasting =>
      split
      next held => exact .known (hasLocked_iff.mp held) rfl
      next free =>
        have fresh : event.id ∉ s.coords.backend.events := fun member =>
          free (hasLocked_iff.mpr member)
        split
        next deleted =>
          apply Saved.deleted fresh ?_ deleted rfl
          intro request
          simp [Environment.deletedLocked, request] at deleted
        next kept =>
          have spared : env.deletedLocked s event = false := Bool.not_eq_true _ ▸ kept
          split
          next request =>
            cases saved : env.saveDeletionLocked s event with
            | mk =>
              obtain ⟨result, rows, marks, holds⟩ :
                (env.saveDeletionLocked s event).2 = _ ∧ _ :=
                  saveDeletionLocked_saved legible collapsed member fresh
              rw [saved] at result rows marks holds
              subst result
              exact .requested request fresh holds rows marks
          next other =>
            split
            next state =>
              by_cases late : ∃ version, Rival s event version ∧ isOlder version event = false
              · rw [replace_superseded legible collapsed member state late]
                exact .superseded state late rfl
              have older : ∀ version, Rival s event version → isOlder version event = true := by
                intro version rival
                by_contra young
                exact late ⟨version, rival, Bool.not_eq_true _ ▸ young⟩
              obtain ⟨stored, holds⟩ : _ ∧ ∀ other, (s.coords.replace env.sha256 env.index (env.scan s)
                  event).1.backend.Holds other ↔ _ :=
                replace_stored legible collapsed member state fresh older
              cases replacing : s.coords.replace env.sha256 env.index (env.scan s) event with
              | mk written =>
                rw [replacing] at stored holds
                subst stored
                obtain ⟨coords, rows⟩ := clearUndeliveredUnless_frame
                  { s with coords := written } event fun existing => !olderThan existing event
                have kept : { s with coords := written }.undelivered = s.undelivered := rfl
                refine .replaced state fresh spared older ?_ rows
                  (clearUndeliveredUnless_marks kept event _)
                intro other
                rw [← holds other]
                exact iff_of_eq (congrArg (BoltBackend.Holds · other)
                  (congrArg Boltcoord.Store.backend coords))
            next plain =>
              rw [Store.save_fresh fresh]
              exact .stored (Bool.not_eq_true _ ▸ plain) other (Bool.not_eq_true _ ▸ lasting) fresh
                spared (fun _ => BoltBackend.put_holds fresh) rfl rfl

theorem Collapsed.save (legible : Legible env given) (collapsed : Collapsed given s)
    (member : event ∈ given) : Collapsed given (env.saveEvent s event).1 := by
  have saved : Saved env s event _ := saveEvent_saved legible collapsed member
  -- Events that are no versions stand next to the held ones.
  have beside {t : Store} (plain : Kind.isState event.kind = false)
      (holds : ∀ other, t.Holds other → other = event ∨ s.Holds other) : Collapsed given t := by
    refine collapsed.of_held (fun other held => ?_) fun other held state => ?_
    · rcases holds other held with rfl | stored
      · exact member
      · exact collapsed.known other stored
    · refine (holds other held).resolve_left ?_
      rintro rfl
      exact nomatch plain.symm.trans state
  cases saved with
  | refused _ same | passed _ same | known _ same | deleted _ _ _ same | superseded _ _ same =>
    rw [same]
    exact collapsed
  | requested request _ holds =>
    exact beside (by rw [request]; exact Kind.deletion_not_state) fun other held =>
      ((holds other).mp held).imp_right And.left
  | replaced _ _ _ _ holds => exact collapsed.of_replaced member holds
  | stored plain _ _ _ _ holds => exact beside plain fun other => (holds other).mp

theorem collapsed_empty (given : Set Event) : Collapsed given Store.empty :=
  ⟨fun event held => absurd held (BoltBackend.not_empty_holds event),
    fun first _ held => absurd held (BoltBackend.not_empty_holds first)⟩

def openEnvironment : Environment :=
  ⟨BoltBackend.finds, fun _ => true, fun _ => FixedBytes.zero 32, fun _ => true, fun _ => none⟩

end Bahia.Localstore
