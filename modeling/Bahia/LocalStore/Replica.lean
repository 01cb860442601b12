import Bahia.LocalStore.Saves

/-! What the store holds after it was given some events: the invariant one save keeps. -/

namespace Bahia.Localstore
open Foundation Nostr Boltdb Boltcoord List

/-- Events with their own ids, whose coordinates and references are written one way. -/
structure Admissible (events : Set Event) : Prop where
  distinct : ∀ first ∈ events, ∀ second ∈ events, first.id = second.id → first = second
  single : ∀ event ∈ events, Kind.isAddressable event.kind = true → SingleD event.tags
  unnamed : ∀ request ∈ events, request.kind = kindDeletion → ∀ event ∈ events,
    Kind.isState event.kind = true → ∀ tag ∈ request.tags, namedID tag ≠ some event.id
  lowercase : ∀ request ∈ events, request.kind = kindDeletion → ∀ tag ∈ request.tags,
    ∀ id, namedID tag = some id → tag.getD 1 "" = ID.hex id

/-- The store finds the versions and the requests among the events as NIP-01 says. -/
structure Readable (env : Environment) (events : Set Event) : Prop extends Legible env events where
  naming : FindsNaming env events

theorem finds_upTo : BoltBackend.finds { upTo := upTo } event = true ↔ Within upTo event := by
  simp only [BoltBackend.finds, Filter.accepts, Filter.matchesIgnoringTimestampConstraints,
    Option.all_none, all_nil, Bool.true_and, Bool.and_true, bne_self_eq_false,
    Bool.false_and, Bool.not_false, Bool.not_eq_true', Bool.and_eq_false_iff,
    bne_eq_false_iff_eq]
  exact or_congr_right (decide_eq_false_iff_not.trans not_lt)

theorem readable_of_finds {env : Environment} {events : Set Event} (index : env.index = BoltBackend.finds)
    (single : ∀ event ∈ events, Kind.isAddressable event.kind = true → SingleD event.tags)
    (later : ∀ event ∈ events, event.createdAt ≠ 0) : Readable env events := by
  refine ⟨⟨single, ?_, ?_, later⟩, ?_⟩
  · intro c _ tags _ upTo _ event _
    rw [index]
  · intro upTo _ event _ found
    rw [index] at found
    exact finds_upTo.mp found
  · intro event _ request _
    rw [index]

def requestsOf (events : Set Event) : Set Event :=
  {request | request ∈ events ∧ request.kind = kindDeletion}

/-- The request's rows of the deletion index keep the version out. -/
def Bars (env : Environment) (request version : Event) : Prop :=
  ∃ c ∈ deletedCoordinates env.validKey request,
    deletionKeyPrefix env.sha256 c = deletionKeyPrefix env.sha256 (coordinateOf version) ∧
      version.createdAt.toUint64 ≤ request.createdAt.toUint64

/-- The store that was given the events of `seen`: a held version escaped every seen
request, and a version that is not held has a later one or met a request. -/
structure Replica (env : Environment) (seen : Set Event) (s : Store) : Prop where
  unique : ∀ first second, s.Holds first → s.Holds second → Kind.isState first.kind = true →
    coordinateOf first = coordinateOf second → first = second
  known : ∀ event, s.Holds event → event ∈ seen ∧ Kind.isEphemeral event.kind = false
  requests : ∀ event ∈ requestsOf seen, s.Holds event
  rows : RowsOf env.validKey env.sha256 s.deletions (requestsOf seen)
  regular : ∀ event ∈ seen, Kind.isState event.kind = false → event.kind ≠ kindDeletion →
    Kind.isEphemeral event.kind = false →
      (s.Holds event ↔ ∀ request ∈ requestsOf seen, ¬ Store.Names request event)
  spared : ∀ version, s.Holds version → ∀ request ∈ requestsOf seen,
    ¬ (Bars env request version ∧ Covers env request version)
  covered : ∀ version ∈ seen, Kind.isState version.kind = true →
    (∃ held, Rival s version held ∧ version.rank ≤ held.rank) ∨
      ∃ met ∈ seen, coordinateOf met = coordinateOf version ∧ version.rank ≤ met.rank ∧
        ∃ request ∈ requestsOf seen, Bars env request met ∨ Covers env request met

section Sets
variable {event : Event}

theorem requestsOf_insert (seen : Set Event) (request : event.kind = kindDeletion) :
    requestsOf (insert event seen) = insert event (requestsOf seen) := by
  ext other
  simp only [requestsOf, Set.mem_insert_iff, Set.mem_ofPred_eq]
  constructor
  · intro ⟨either, kind⟩
    exact either.imp id fun member => ⟨member, kind⟩
  · intro either
    rcases either with same | ⟨member, kind⟩
    · exact ⟨.inl same, same ▸ request⟩
    · exact ⟨.inr member, kind⟩

theorem requestsOf_insert_other (seen : Set Event) (other : event.kind ≠ kindDeletion) :
    requestsOf (insert event seen) = requestsOf seen := by
  ext request
  simp only [requestsOf, Set.mem_insert_iff, Set.mem_ofPred_eq]
  constructor
  · intro ⟨either, kind⟩
    rcases either with same | member
    · exact absurd (same ▸ kind) other
    · exact ⟨member, kind⟩
  · intro ⟨member, kind⟩
    exact ⟨.inr member, kind⟩

theorem state_not_deletion (state : Kind.isState event.kind = true) :
    event.kind ≠ kindDeletion := by
  intro request
  rw [request, Kind.deletion_not_state] at state
  cases state

theorem Covers.state (covers : Covers env request version) : Kind.isState version.kind = true :=
  (deletedCoordinates_proper covers.1).1.state

end Sets

section Naming

theorem containsAny_e :
    Tags.containsAny tags "e" [text] = true ↔
      ∃ tag ∈ tags, ∃ rest, tag = "e" :: text :: rest := by
  rw [Tags.containsAny, any_eq_true]
  apply exists_congr
  intro tag
  apply and_congr_right
  intro _
  split
  next name value rest _ =>
    simp only [Bool.and_eq_true, beq_iff_eq, contains_cons, contains_nil, Bool.or_false,
      List.cons.injEq]
    constructor
    · rintro ⟨first, second⟩
      exact ⟨rest, first, second, rfl⟩
    · rintro ⟨_, first, second, _⟩
      exact ⟨first, second⟩
  next short =>
    constructor
    · intro impossible
      cases impossible
    · rintro ⟨rest, same⟩
      exact absurd same (short _ _ _)

theorem namedBy_iff
    (lowercase : ∀ tag ∈ request.tags, ∀ id, namedID tag = some id → tag.getD 1 "" = ID.hex id)
    (held : s.Holds request) (kind : request.kind = kindDeletion)
    (other : event.kind ≠ kindDeletion) : NamedBy s event request ↔ Store.Names request event := by
  constructor
  · intro ⟨_, _, author, named⟩
    obtain ⟨tag, member, rest, same⟩ := containsAny_e.mp named
    refine ⟨⟨tag, member, ?_⟩, author.symm, other⟩
    rw [same]
    show (if "e" = "e" then idFromHex (ID.hex event.id) else none) = some event.id
    rw [if_pos rfl]
    exact idFromHex_hex event.id
  · intro ⟨⟨tag, member, read⟩, own, _⟩
    refine ⟨held, kind, own.symm, containsAny_e.mpr ⟨tag, member, ?_⟩⟩
    have written := lowercase tag member event.id read
    unfold namedID at read
    split at read
    next name value rest =>
      split at read
      next named =>
        refine ⟨rest, ?_⟩
        rw [named, ← written]
        rfl
      next => cases read
    next => cases read

end Naming

section Steps
variable {event : Event}

theorem Replica.collapsed (replica : Replica env seen s) (inside : seen ⊆ events) : Collapsed events s :=
  ⟨fun event held => inside (replica.known event held).1, replica.unique⟩

theorem Replica.held_of_id (replica : Replica env seen s) (admissible : Admissible events)
    (inside : seen ⊆ events) (given : event ∈ events) (member : event.id ∈ s.coords.backend.events) :
    s.Holds event := by
  obtain ⟨stored, same, held⟩ := BoltBackend.holds_of_mem member
  have equal := admissible.distinct stored (inside (replica.known stored held).1) event given same
  subst equal
  exact held

theorem Replica.namedBy (replica : Replica env seen s) (admissible : Admissible events)
    (inside : seen ⊆ events) (other : event.kind ≠ kindDeletion) :
    (∃ request, NamedBy s event request) ↔
      ∃ request ∈ requestsOf seen, Store.Names request event := by
  constructor
  · intro ⟨request, named⟩
    have member := (replica.known request named.1).1
    have lowercase := admissible.lowercase request (inside member) named.2.1
    exact ⟨request, ⟨member, named.2.1⟩, (namedBy_iff lowercase named.1 named.2.1 other).mp named⟩
  · intro ⟨request, member, names⟩
    have lowercase := admissible.lowercase request (inside member.1) member.2
    exact ⟨request, (namedBy_iff lowercase (replica.requests request member) member.2 other).mpr names⟩

theorem Replica.barred (replica : Replica env seen s) :
    DeletionIndex.deleted env.sha256 s.deletions (coordinateOf event) event.createdAt = true ↔
      ∃ request ∈ requestsOf seen, Bars env request event :=
  replica.rows.deleted_iff

theorem Admissible.not_names (admissible : Admissible events) (member : request ∈ requestsOf events)
    (given : event ∈ events) (state : Kind.isState event.kind = true) :
    ¬ Store.Names request event := by
  intro ⟨⟨tag, inside, read⟩, _⟩
  exact admissible.unnamed request member.1 member.2 event given state tag inside read

theorem Replica.deleted_state (replica : Replica env seen s) (readable : Readable env events)
    (admissible : Admissible events) (inside : seen ⊆ events) (given : event ∈ events)
    (state : Kind.isState event.kind = true) :
    env.deletedLocked s event = true ↔ ∃ request ∈ requestsOf seen, Bars env request event := by
  have unnamed : ¬ ∃ request ∈ requestsOf seen, Store.Names request event := by
    intro ⟨request, member, names⟩
    exact admissible.not_names ⟨inside member.1, member.2⟩ given state names
  rw [deletedLocked_iff readable.naming (replica.collapsed inside).known given (state_not_deletion state),
    replica.namedBy admissible inside (state_not_deletion state), or_iff_right unnamed,
    and_iff_right state, replica.barred]

theorem Replica.deleted_plain (replica : Replica env seen s) (readable : Readable env events)
    (admissible : Admissible events) (inside : seen ⊆ events) (given : event ∈ events)
    (other : event.kind ≠ kindDeletion)
    (plain : Kind.isState event.kind = false) :
    env.deletedLocked s event = true ↔
      ∃ request ∈ requestsOf seen, Store.Names request event := by
  have stateless : ¬ (Kind.isState event.kind = true ∧ DeletionIndex.deleted env.sha256 s.deletions
      (coordinateOf event) event.createdAt = true) := by
    simp [plain]
  rw [deletedLocked_iff readable.naming (replica.collapsed inside).known given other,
    replica.namedBy admissible inside other, or_iff_left stateless]

theorem Replica.widen (replica : Replica env seen s) (other : event.kind ≠ kindDeletion)
    (regular : Kind.isState event.kind = false → Kind.isEphemeral event.kind = false →
      (s.Holds event ↔ ∀ request ∈ requestsOf seen, ¬ Store.Names request event))
    (covered : Kind.isState event.kind = true →
      (∃ held, Rival s event held ∧ event.rank ≤ held.rank) ∨
        ∃ request ∈ requestsOf seen, Bars env request event) :
    Replica env (insert event seen) s := by
  have requests := requestsOf_insert_other seen other
  refine ⟨replica.unique, ?_, ?_, ?_, ?_, ?_, ?_⟩
  · intro held holds
    obtain ⟨member, lasting⟩ := replica.known held holds
    exact ⟨.inr member, lasting⟩
  · rw [requests]
    exact replica.requests
  · rw [requests]
    exact replica.rows
  · rw [requests]
    intro given member plain kind lasting
    rcases member with rfl | member
    · exact regular plain lasting
    · exact replica.regular given member plain kind lasting
  · rw [requests]
    exact replica.spared
  · rw [requests]
    intro version member state
    rcases member with rfl | member
    · rcases covered state with held | ⟨request, asked, bars⟩
      · exact .inl held
      · exact .inr ⟨version, .inl rfl, rfl, le_rfl, request, asked, .inl bars⟩
    · rcases replica.covered version member state with held | ⟨met, earlier, facts⟩
      · exact .inl held
      · exact .inr ⟨met, .inr earlier, facts⟩

theorem ephemeral_not_state (ephemeral : Kind.isEphemeral event.kind = true) :
    Kind.isState event.kind = false ∧ event.kind ≠ kindDeletion := by
  simp only [Kind.isEphemeral, Bool.and_eq_true, decide_eq_true_eq] at ephemeral
  constructor
  · simp only [Kind.isState, Kind.isReplaceable, Kind.isAddressable, Bool.or_eq_false_iff,
      beq_eq_false_iff_ne, Bool.and_eq_false_iff, decide_eq_false_iff_not]
    omega
  · intro request
    rw [request] at ephemeral
    exact absurd ephemeral.1 (by decide)

theorem state_not_ephemeral (state : Kind.isState event.kind = true) :
    Kind.isEphemeral event.kind = false := by
  cases ephemeral : Kind.isEphemeral event.kind with
  | false => rfl
  | true =>
    rw [(ephemeral_not_state ephemeral).1] at state
    cases state

variable (replica : Replica env seen s)
include replica

section
variable (readable : Readable env events) (admissible : Admissible events) (inside : seen ⊆ events)
include readable admissible inside

omit readable in
theorem Replica.requested (given : event ∈ events) (request : event.kind = kindDeletion)
    (holds : ∀ other, t.Holds other ↔ other = event ∨
      (s.Holds other ∧ ¬ Store.Names event other ∧ ¬ Covers env event other))
    (rows : t.deletions = DeletionIndex.index env.sha256 env.validKey s.deletions event) :
    Replica env (insert event seen) t := by
  have stateless : Kind.isState event.kind = false := by rw [request]; exact Kind.deletion_not_state
  have requests := requestsOf_insert seen request
  have old : ∀ other, t.Holds other → Kind.isState other.kind = true → s.Holds other ∧
      ¬ Covers env event other := by
    intro other held state
    rcases (holds other).mp held with same | ⟨stored, _, uncovered⟩
    · rw [same, stateless] at state
      cases state
    · exact ⟨stored, uncovered⟩
  have known : ∀ other, t.Holds other → other ∈ events := by
    intro other held
    rcases (holds other).mp held with same | ⟨stored, _⟩
    · rwa [same]
    · exact inside (replica.known other stored).1
  refine ⟨((replica.collapsed inside).of_held known fun other held state => (old other held state).1).unique,
    ?_, ?_, ?_, ?_, ?_, ?_⟩
  · intro other held
    rcases (holds other).mp held with same | ⟨stored, _⟩
    · rw [same]
      refine ⟨.inl rfl, ?_⟩
      rw [request]
      rfl
    · obtain ⟨member, lasting⟩ := replica.known other stored
      exact ⟨.inr member, lasting⟩
  · rw [requests]
    intro other member
    rcases member with same | member
    · exact (holds other).mpr (.inl same)
    refine (holds other).mpr (.inr ⟨replica.requests other member, ?_, ?_⟩)
    · intro names
      exact names.2.2 member.2
    · intro covers
      exact state_not_deletion covers.state member.2
  · rw [requests, rows]
    exact replica.rows.index event
  · rw [requests]
    intro other member plain kind lasting
    have seenBefore : other ∈ seen := by
      rcases member with same | member
      · exact absurd (same ▸ request) kind
      · exact member
    have apart : other ≠ event := fun same => kind (same ▸ request)
    have uncovered : ¬ Covers env event other := by
      intro covers
      rw [covers.state] at plain
      cases plain
    rw [holds, or_iff_right apart, replica.regular other seenBefore plain kind lasting,
      and_iff_left uncovered, Set.forall_mem_insert, and_comm]
  · rw [requests]
    intro version held asking member ⟨bars, covers⟩
    obtain ⟨stored, uncovered⟩ := old version held covers.state
    rcases member with rfl | member
    · exact uncovered covers
    · exact replica.spared version stored asking member ⟨bars, covers⟩
  · rw [requests]
    intro version member state
    rcases member with rfl | member
    · rw [stateless] at state
      cases state
    rcases replica.covered version member state with
      ⟨held, rival, later⟩ | ⟨met, earlier, placed, later, asking, asked, hit⟩
    · by_cases covers : Covers env event held
      · exact .inr ⟨held, .inr (replica.known held rival.1).1, rival.2, later, event,
          .inl rfl, .inr covers⟩
      · refine .inl ⟨held, ⟨(holds held).mpr (.inr ⟨rival.1, ?_, covers⟩), rival.2⟩, later⟩
        exact admissible.not_names ⟨given, request⟩ (inside (replica.known held rival.1).1)
          (state_of_coordinate rival.2 state)
    · exact .inr ⟨met, .inr earlier, placed, later, asking, .inr asked, hit⟩

theorem Replica.replaced (given : event ∈ events) (state : Kind.isState event.kind = true)
    (spared : env.deletedLocked s event = false)
    (older : ∀ version, Rival s event version → isOlder version event = true)
    (holds : ∀ other, t.Holds other ↔ other = event ∨
      (s.Holds other ∧ coordinateOf other ≠ coordinateOf event))
    (rows : t.deletions = s.deletions) : Replica env (insert event seen) t := by
  have kind := state_not_deletion state
  have requests := requestsOf_insert_other seen kind
  have stays : ∀ other, Kind.isState other.kind = false → (t.Holds other ↔ s.Holds other) := by
    intro other plain
    have apart : coordinateOf other ≠ coordinateOf event := by
      intro same
      rw [state_of_coordinate same state] at plain
      cases plain
    rw [holds, and_iff_left apart, or_iff_right fun same => apart (congrArg coordinateOf same)]
  have unbarred : ¬ ∃ request ∈ requestsOf seen, Bars env request event := by
    rw [← replica.deleted_state readable admissible inside given state, spared]
    exact Bool.false_ne_true
  refine ⟨((replica.collapsed inside).of_replaced given holds).unique, ?_, ?_, ?_, ?_, ?_, ?_⟩
  · intro other held
    rcases (holds other).mp held with same | ⟨stored, _⟩
    · rw [same]
      exact ⟨.inl rfl, state_not_ephemeral state⟩
    · obtain ⟨member, lasting⟩ := replica.known other stored
      exact ⟨.inr member, lasting⟩
  · rw [requests]
    intro request member
    rw [stays request (by rw [member.2]; exact Kind.deletion_not_state)]
    exact replica.requests request member
  · rw [requests, rows]
    exact replica.rows
  · rw [requests]
    intro other member plain others lasting
    rw [stays other plain]
    rcases member with same | member
    · rw [same, state] at plain
      cases plain
    · exact replica.regular other member plain others lasting
  · rw [requests]
    intro version held request member both
    rcases (holds version).mp held with same | ⟨stored, _⟩
    · rw [same] at both
      exact unbarred ⟨request, member, both.1⟩
    · exact replica.spared version stored request member both
  · rw [requests]
    intro version member versioned
    rcases member with rfl | member
    · exact .inl ⟨version, ⟨(holds version).mpr (.inl rfl), rfl⟩, le_rfl⟩
    rcases replica.covered version member versioned with
      ⟨held, rival, later⟩ | ⟨met, earlier, facts⟩
    · by_cases placed : coordinateOf held = coordinateOf event
      · have newer := isOlder_iff_rank.mp (older held ⟨rival.1, placed⟩)
        exact .inl ⟨event, ⟨(holds event).mpr (.inl rfl), placed.symm.trans rival.2⟩,
          later.trans newer.le⟩
      · exact .inl ⟨held, ⟨(holds held).mpr (.inr ⟨rival.1, placed⟩), rival.2⟩, later⟩
    · exact .inr ⟨met, .inr earlier, facts⟩

theorem Replica.stored (listed : event ∈ events) (plain : Kind.isState event.kind = false)
    (other : event.kind ≠ kindDeletion) (lasting : Kind.isEphemeral event.kind = false)
    (spared : env.deletedLocked s event = false)
    (holds : ∀ other, t.Holds other ↔ other = event ∨ s.Holds other)
    (rows : t.deletions = s.deletions) : Replica env (insert event seen) t := by
  have requests := requestsOf_insert_other seen other
  have unnamed : ¬ ∃ request ∈ requestsOf seen, Store.Names request event := by
    rw [← replica.deleted_plain readable admissible inside listed other plain, spared]
    exact Bool.false_ne_true
  have old : ∀ version, t.Holds version → Kind.isState version.kind = true → s.Holds version := by
    intro version held state
    rcases (holds version).mp held with same | stored
    · rw [same, plain] at state
      cases state
    · exact stored
  have known : ∀ other, t.Holds other → other ∈ events := by
    intro other held
    rcases (holds other).mp held with same | stored
    · rwa [same]
    · exact inside (replica.known other stored).1
  refine ⟨((replica.collapsed inside).of_held known old).unique, ?_, ?_, ?_, ?_, ?_, ?_⟩
  · intro held holding
    rcases (holds held).mp holding with same | stored
    · rw [same]
      exact ⟨.inl rfl, lasting⟩
    · obtain ⟨member, lasts⟩ := replica.known held stored
      exact ⟨.inr member, lasts⟩
  · rw [requests]
    intro request member
    exact (holds request).mpr (.inr (replica.requests request member))
  · rw [requests, rows]
    exact replica.rows
  · rw [requests]
    intro given member stateless kind lasts
    by_cases same : given = event
    · subst same
      refine iff_of_true ((holds given).mpr (.inl rfl)) ?_
      intro request asked names
      exact unnamed ⟨request, asked, names⟩
    · rw [holds, or_iff_right same]
      exact replica.regular given (member.resolve_left same) stateless kind lasts
  · rw [requests]
    intro version held request member both
    exact replica.spared version (old version held both.2.state) request member both
  · rw [requests]
    intro version member state
    rcases member with same | member
    · rw [same, plain] at state
      cases state
    rcases replica.covered version member state with
      ⟨held, rival, later⟩ | ⟨met, earlier, facts⟩
    · exact .inl ⟨held, ⟨(holds held).mpr (.inr rival.1), rival.2⟩, later⟩
    · exact .inr ⟨met, .inr earlier, facts⟩

end

section
variable (readable : Readable env events) (admitting : ∀ event, env.admission event = none)
  (admissible : Admissible events) (inside : seen ⊆ events) (given : event ∈ events)
include readable admitting admissible inside given

theorem Replica.save : Replica env (insert event seen) (env.saveEvent s event).1 := by
  have outcome : Saved env s event _ :=
    saveEvent_saved readable.toLegible (replica.collapsed inside) given
  cases outcome with
  | refused refusal =>
    rw [admitting event] at refusal
    cases refusal
  | passed ephemeral same =>
    rw [same]
    obtain ⟨stateless, other⟩ := ephemeral_not_state ephemeral
    apply replica.widen other
    · intro _ lasting
      rw [ephemeral] at lasting
      cases lasting
    · intro state
      rw [stateless] at state
      cases state
  | known held same =>
    have stored := replica.held_of_id admissible inside given held
    rw [same, Set.insert_eq_of_mem (replica.known event stored).1]
    exact replica
  | deleted fresh other deleted same =>
    rw [same]
    apply replica.widen other
    · intro plain _
      obtain ⟨request, asked, names⟩ :=
        (replica.deleted_plain readable admissible inside given other plain).mp deleted
      refine iff_of_false (fun held => fresh held.mem) ?_
      intro unnamed
      exact unnamed request asked names
    · intro state
      exact .inr ((replica.deleted_state readable admissible inside given state).mp deleted)
  | superseded state late same =>
    rw [same]
    apply replica.widen (state_not_deletion state)
    · intro stateless
      rw [state] at stateless
      cases stateless
    · intro _
      obtain ⟨version, rival, young⟩ := late
      refine .inl ⟨version, rival, ?_⟩
      rw [← not_lt, ← isOlder_iff_rank, young]
      exact Bool.false_ne_true
  | requested request _ holds rows => exact replica.requested admissible inside given request holds rows
  | replaced state _ spared older holds rows =>
    exact replica.replaced readable admissible inside given state spared older holds rows
  | stored plain other lasting _ spared holds rows =>
    exact replica.stored readable admissible inside given plain other lasting spared holds rows

/-- While no request has been seen, a version is new to the store exactly when it is newer than every
version of its coordinate that has been seen. -/
theorem Replica.save_new_iff (state : Kind.isState event.kind = true)
    (fresh : event ∉ seen) (unrequested : requestsOf seen = ∅) :
    (env.saveEvent s event).2 = .ok true ↔
      ∀ version ∈ seen, coordinateOf version = coordinateOf event → version.rank < event.rank := by
  have missing : event.id ∉ s.coords.backend.events := by
    intro member
    exact fresh (replica.known event (replica.held_of_id admissible inside given member)).1
  have unheld : s.hasLocked event.id = false := by
    rw [Bool.eq_false_iff, ne_eq, hasLocked_iff]
    exact missing
  have spared : env.deletedLocked s event = false := by
    rw [Bool.eq_false_iff, ne_eq, replica.deleted_state readable admissible inside given state, unrequested]
    simp
  have lasting := state_not_ephemeral state
  have versioned : (Kind.isReplaceable event.kind || Kind.isAddressable event.kind) = true := state
  simp only [Environment.saveEvent, admitting, lasting, unheld, spared, versioned,
    state_not_deletion state, Bool.false_eq_true, if_false, if_true]
  by_cases late : ∃ version, Rival s event version ∧ isOlder version event = false
  · rw [replace_superseded readable.toLegible (replica.collapsed inside) given state late]
    obtain ⟨version, rival, young⟩ := late
    refine iff_of_false (by simp) fun newest => ?_
    have newer := isOlder_iff_rank.mpr (newest version (replica.known version rival.1).1 rival.2)
    rw [young] at newer
    cases newer
  · have older : ∀ version, Rival s event version → isOlder version event = true := by
      intro version rival
      by_contra young
      exact late ⟨version, rival, Bool.not_eq_true _ ▸ young⟩
    rw [(replace_stored readable.toLegible (replica.collapsed inside) given state missing older).1]
    refine iff_of_true rfl ?_
    intro version member placed
    rcases replica.covered version member (state_of_coordinate placed state) with
      ⟨held, rival, later⟩ | ⟨_, _, _, _, request, asked, _⟩
    · exact lt_of_le_of_lt later
        (isOlder_iff_rank.mp (older held ⟨rival.1, rival.2.trans placed⟩))
    · rw [unrequested] at asked
      cases asked

end

end Steps

def saveAll (env : Environment) (s : Store) (arrivals : List Event) : Store :=
  arrivals.foldl (fun s event => (env.saveEvent s event).1) s

theorem replica_empty (env : Environment) : Replica env ∅ Store.empty := by
  have nothing : ∀ event, ¬ Store.empty.Holds event := BoltBackend.not_empty_holds
  have requests : requestsOf ∅ = ∅ := by simp [requestsOf]
  refine ⟨(collapsed_empty ∅).unique, ?_, ?_, ?_, ?_, ?_, ?_⟩
  · intro event held
    exact absurd held (nothing event)
  · intro event member
    cases member.1
  · rw [requests]
    exact rowsOf_empty
  · intro event member
    cases member
  · intro version held
    exact absurd held (nothing version)
  · intro version member
    cases member

theorem Replica.save_all (readable : Readable env events)
    (admitting : ∀ event, env.admission event = none) (admissible : Admissible events)
    (replica : Replica env seen s) (inside : seen ⊆ events) (given : ∀ event ∈ arrivals, event ∈ events) :
    Replica env (seen ∪ {event | event ∈ arrivals}) (saveAll env s arrivals) := by
  induction arrivals generalizing seen s with
  | nil => simpa [saveAll] using replica
  | cons event rest ih =>
    have first := given event mem_cons_self
    have step := replica.save readable admitting admissible inside first
    have run := ih step (Set.insert_subset first inside)
      fun other member => given other (mem_cons_of_mem _ member)
    have same : insert event seen ∪ {other | other ∈ rest} =
        seen ∪ {other | other ∈ event :: rest} := by
      ext other
      simp only [Set.mem_union, Set.mem_insert_iff, Set.mem_ofPred_eq, mem_cons]
      exact or_assoc.trans or_left_comm
    rw [← same]
    exact run

end Bahia.Localstore
